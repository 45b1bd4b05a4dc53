set_option autoImplicit false

namespace SchemaProbe.Config

def exampleLines : List String :=
  ["# apiconform configuration",
    "",
    "# Named target: main, dev, qa, test or local.",
    "# Supplies both the base URL and the schema location.",
    "target = \"local\"",
    "",
    "# Or point at a schema and a server explicitly (these override the target)",
    "# schema = \"docs/swagger.json\"",
    "# base_url = \"http://localhost:8080\"",
    "",
    "# Static HTTP headers",
    "# [headers]",
    "# X-API-Key = \"your-api-key\"",
    "",
    "# Fixed path parameters (entity IDs known to exist)",
    "# [path_params]",
    "# node_id = \"1\"",
    "",
    "# Requests in flight at once",
    "concurrency = 4",
    "",
    "# Per-request timeout in seconds",
    "request_timeout = 10.0",
    "",
    "# Overall run timeout in seconds; unfinished cases are reported inconclusive",
    "# run_timeout = 300.0",
    "",
    "# Generation",
    "# max_cases = 50",
    "random_cases = 2",
    "# seed = 42",
    "",
    "# Checks to run (default: all)",
    "# checks = [\"not_a_server_error\", \"status_code_conformance\", \"content_type_conformance\", \"response_schema_conformance\", \"response_headers_conformance\"]"]

def exampleText : String := String.join (exampleLines.map (· ++ "\n"))

end SchemaProbe.Config
