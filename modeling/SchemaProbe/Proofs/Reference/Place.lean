import SchemaProbe.Proofs.Reference.Substitution

set_option autoImplicit false

namespace SchemaProbe.Reference

variable {doc v w : Json}

theorem lookup_anywhere {place : String} (place' : String) {r : String} (found : lookup doc place r = .ok v) :
    lookup doc place' r = .ok v :=
  lookup_eq_ok_iff.mpr (lookup_eq_ok_iff.mp found)

theorem follow_anywhere {place : String} (place' : String) (followed : follow doc place v = .ok w) :
    follow doc place' v = .ok w := by
  have steps (n : Nat) (v : Json) (done : followFrom doc place n v = .ok w) : followFrom doc place' n v = .ok w := by
    induction n generalizing v with
    | zero => cases done
    | succ n ih =>
      unfold followFrom at done ⊢
      split at done
      · exact done
      · obtain ⟨target, there, rest⟩ := bind_eq_ok_iff.mp done
        exact bind_eq_ok_iff.mpr ⟨target, lookup_anywhere place' there, ih target rest⟩
  exact steps deepest v followed

theorem replace_mono {e e' : String → Except DocumentFault Json} (kept : ∀ r u, e r = .ok u → e' r = .ok u)
    (done : replace e v = .ok w) : replace e' v = .ok w := by
  induction v using Json.inductionOn generalizing w with
  | object ms ih =>
    cases found : reference? (.object ms) with
    | some r =>
      rw [replace_reference found] at done ⊢
      exact kept r w done
    | none =>
      rw [replace_object found, map_eq_ok_iff] at done ⊢
      obtain ⟨ws, members, rfl⟩ := done
      obtain ⟨names, each⟩ := replaceMembers_eq_ok_iff_zip.mp members
      have kept p (both : p ∈ ms.zip ws) := ih p.1 (List.of_mem_zip both).1 (each p both)
      exact ⟨ws, replaceMembers_eq_ok_iff_zip.mpr ⟨names, kept⟩, rfl⟩
  | array xs ih =>
    rw [replace, map_eq_ok_iff] at done ⊢
    obtain ⟨ys, elements, rfl⟩ := done
    obtain ⟨size, each⟩ := replaceList_eq_ok_iff_zip.mp elements
    have kept p (both : p ∈ xs.zip ys) := ih p.1 (List.of_mem_zip both).1 (each p both)
    exact ⟨ys, replaceList_eq_ok_iff_zip.mpr ⟨size, kept⟩, rfl⟩
  | _ => exact done

theorem expand_anywhere {place : String} (place' : String) {budget : Nat} {stack : List String} {r : String}
    (done : expand doc place budget stack r = .ok w) : expand doc place' budget stack r = .ok w := by
  induction budget generalizing stack r w with
  | zero => exact done
  | succ budget ih =>
    unfold expand at done ⊢
    split at done
    next again => rw [if_pos again]; exact done
    next new =>
      rw [if_neg new]
      obtain ⟨target, there, inside⟩ := bind_eq_ok_iff.mp done
      exact bind_eq_ok_iff.mpr ⟨target, lookup_anywhere place' there, replace_mono (fun _ _ => ih) inside⟩

theorem inline_anywhere {place : String} (place' : String) (done : inline doc place v = .ok w) :
    inline doc place' v = .ok w :=
  replace_mono (fun _ _ => expand_anywhere place') done

end SchemaProbe.Reference
