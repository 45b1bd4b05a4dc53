import SchemaProbe.Json.Decode
import SchemaProbe.Proofs.Except
import SchemaProbe.Proofs.Json.Ordered

set_option autoImplicit false

namespace SchemaProbe

structure Json.Rearranges (f : Json → Json) : Prop where
  null : f .null = .null
  bool : ∀ b, f (.bool b) = .bool b
  number : ∀ n, f (.number n) = .number n
  string : ∀ s, f (.string s) = .string s
  array : ∀ xs, f (.array xs) = .array (xs.map f)
  object : ∀ ms : Members, (NameMap.names ms).Nodup → ∃ ns : Members, f (.object ms) = .object ns ∧
    (NameMap.names ns).Nodup ∧ ∀ name, NameMap.get? ns name = (NameMap.get? ms name).map f

namespace Json

theorem rearranges_id : Rearranges id where
  null := rfl
  bool _ := rfl
  number _ := rfl
  string _ := rfl
  array xs := by simp
  object ms distinct := ⟨ms, rfl, distinct, fun name => by simp⟩

theorem sortedList_eq_map (xs : List Json) : sortedList xs = xs.map sorted := by
  induction xs with
  | nil => rfl
  | cons x xs ih => rw [sortedList, ih, List.map_cons]

theorem sortedMembers_eq_map (ms : List (String × Json)) : sortedMembers ms = ms.map fun m => (m.1, m.2.sorted) := by
  induction ms with
  | nil => rfl
  | cons m ms ih => rw [sortedMembers, ih, List.map_cons]

theorem rearranges_sorted : Rearranges sorted where
  null := rfl
  bool _ := rfl
  number _ := rfl
  string _ := rfl
  array xs := by rw [sorted, sortedList_eq_map]
  object ms distinct := by
    refine ⟨_, by rw [sorted], (NameMap.ofList_sorted _).names_nodup, fun name => ?_⟩
    have names := NameMap.names_map ms fun _ v => v.sorted
    rw [sortedMembers_eq_map, NameMap.get?_ofList (by rwa [names]), NameMap.get?_map fun _ (v : Json) => v.sorted]

end Json

namespace Decoder

variable {α β : Type}

def Reads (d : Decoder α) (v : Json) (a : α) : Prop := ∀ f, Json.Rearranges f → d (f v) = .ok a

theorem reads_string (s : String) : Reads string (.string s) s := fun f re => by rw [re.string]; rfl

theorem reads_bool (b : Bool) : Reads bool (.bool b) b := fun f re => by rw [re.bool]; rfl

theorem reads_natural {largest n : Nat} (fits : n ≤ largest) (expected : String) :
    Reads (natural largest expected) (.ofNat n) n := fun f re => by
  rw [Json.ofNat, re.number]
  simp [natural, fits]

theorem reads_binary64 {x : Binary64} (finite : x.isFinite = true) : Reads binary64 (.ofBinary64 x) x := fun f re => by
  rw [Json.ofBinary64, if_pos finite, re.number]
  rfl

theorem reads_nullable_string (s : String) : Reads (nullable string) (.string s) (some s) := fun f re => by
  rw [re.string]
  rfl

theorem reads_list {d : Decoder α} {write : α → Json} {xs : List α} (each : ∀ x ∈ xs, Reads d (write x) x) :
    Reads (list d) (.array (xs.map write)) xs := fun f re => by
  rw [re.array, list, mapM_eq_ok_iff, List.forall₂_map_left_iff, List.forall₂_map_left_iff, List.forall₂_same]
  exact fun x member => each x member f re

theorem reads_map {m : NameMap String} (sorted : NameMap.Sorted m) :
    Reads (map string) (.object (m.map fun e => (e.1, .string e.2))) m := fun f re => by
  obtain ⟨ns, moved, distinct, at?⟩ := re.object (m.map fun e => (e.1, .string e.2))
    (by rw [NameMap.names_map m fun _ s => Json.string s]; exact sorted.names_nodup)
  have text (name : String) : NameMap.get? ns name = (NameMap.get? m name).map .string := by
    rw [at?, NameMap.get?_map fun _ s => Json.string s]
    cases NameMap.get? m name <;> simp [re.string]
  let read (e : String × Json) : String × String := (e.1, e.2.string?.getD "")
  have each : ns.mapM (fun e => (string e.2).map fun s => (e.1, s)) = .ok (ns.map read) := by
    rw [mapM_eq_ok_iff, List.forall₂_map_right_iff, List.forall₂_same]
    intro e member
    have here := text e.1
    rw [NameMap.get?_of_mem distinct member] at here
    obtain ⟨s, -, same⟩ := Option.map_eq_some_iff.mp here.symm
    simp only [read, ← same, string, Json.string?]
    rfl
  rw [moved, map, each]
  refine congrArg Except.ok (NameMap.Sorted.ext (NameMap.ofList_sorted _) sorted fun name => ?_)
  have names := NameMap.names_map ns fun _ v => v.string?.getD ""
  rw [NameMap.get?_ofList (by rwa [names]), NameMap.get?_map fun _ (v : Json) => v.string?.getD "", text]
  cases NameMap.get? m name <;> rfl

end Decoder

namespace Fields

variable {α β : Type}

def Reads (fields : Fields α) (entry : String → Option Json) (a : α) : Prop :=
  ∀ f, Json.Rearranges f → ∀ ns : Members, (NameMap.names ns).Nodup →
    (∀ name, NameMap.get? ns name = (entry name).map f) → fields.read ns = .ok a

theorem occurrences_of_nodup {ns : Members} (distinct : (NameMap.names ns).Nodup) (name : String) :
    (occurrences name ns).map Prod.fst = (NameMap.get? ns name).toList := by
  have from? (k : Nat) :
      ((ns.zipIdx k).filterMap fun e => if e.1.1 == name then some (e.1.2, e.2) else none).map Prod.fst =
        (NameMap.get? ns name).toList := by
    induction ns generalizing k with
    | nil => rfl
    | cons m ns ih =>
      obtain ⟨fresh, rest⟩ := List.nodup_cons.mp distinct
      rw [List.zipIdx_cons, NameMap.get?_cons]
      by_cases same : name = m.1
      · have absent : NameMap.get? ns name = none :=
          NameMap.get?_eq_none_iff.mpr fun e member named => fresh (List.mem_map.mpr ⟨e, member, by rw [← named, same]⟩)
        have others := ih rest (k + 1)
        rw [absent] at others
        simpa [same] using others
      · simpa [same, Ne.symm same] using ih rest (k + 1)
  exact from? 0

section
variable {name : String} {d : Decoder α} {entry : String → Option Json}

theorem single_reads {absent : Nat → Except FieldMisfit α} {v : Json} {a : α} (found : entry name = some v)
    (reads : d.Reads v a) : (single name d absent).Reads entry a := fun f re ns distinct at? => by
  have only := occurrences_of_nodup distinct name
  rw [at?, found, Option.map_some, Option.toList_some, List.map_eq_singleton_iff] at only
  obtain ⟨⟨w, i⟩, here, rfl⟩ := only
  simp [single, here, reads f re]

theorem defaulted_reads {a : α} (present : ∀ v, entry name = some v → d.Reads v a) {default : α}
    (absent : entry name = none → default = a) : (defaulted name d default).Reads entry a := by
  cases found : entry name with
  | some v => exact single_reads found (present v found)
  | none =>
    intro f re ns distinct at?
    have nowhere := occurrences_of_nodup distinct name
    rw [at?, found, Option.map_none, Option.toList_none, List.map_eq_nil_iff] at nowhere
    simp [defaulted, single, nowhere, absent found]

theorem seq_reads {g : Fields (α → β)} {x : Fields α} {h : α → β} {a : α} (first : g.Reads entry h)
    (second : x.Reads entry a) : (g <*> x).Reads entry (h a) := fun f re ns distinct at? => by
  change (apply g x).read ns = _
  simp [apply, first f re ns distinct at?, second f re ns distinct at?]

theorem map_reads {x : Fields α} (g : α → β) {a : α} (reads : x.Reads entry a) : (g <$> x).Reads entry (g a) :=
  seq_reads (g := pure g) (fun _ _ _ _ _ => rfl) reads

end

theorem decode_reads {fields : Fields α} {names : List String} {expected : String} {ms : Members} {a : α}
    (distinct : (NameMap.names ms).Nodup) (reads : fields.Reads (NameMap.get? ms) a) :
    (fields.decode names expected).Reads (.object ms) a := fun f re => by
  obtain ⟨ns, moved, distinct, at?⟩ := re.object ms distinct
  rw [moved, decode, reads f re ns distinct at?]
  rfl

theorem decode_given_reads {fields : Fields α} {names : List String} {expected : String}
    {entries : NameMap (Option Json)} {a : α} (distinct : (NameMap.names entries).Nodup)
    (reads : fields.Reads (fun name => (NameMap.get? entries name).join) a) :
    (fields.decode names expected).Reads (.object (NameMap.given entries)) a := by
  refine decode_reads (distinct.sublist (NameMap.names_given_sublist entries)) ?_
  rwa [funext (NameMap.get?_given distinct)]

end Fields

end SchemaProbe
