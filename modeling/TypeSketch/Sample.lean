import TypeSketch.Text.CodePoint

/-!
# The sample document

A bundled document with nested objects, arrays of objects, a date and a mixed array.
-/

namespace TypeSketch

def sampleText : Text :=
  Text.join "\n" [
    "\x7b",
    "  \"user\": \x7b",
    "    \"id\": 1,",
    "    \"name\": \"John Doe\",",
    "    \"email\": \"john@example.com\",",
    "    \"active\": true,",
    "    \"lastLogin\": \"2025-03-30T12:00:00Z\",",
    "    \"address\": \x7b",
    "      \"street\": \"123 Main St\",",
    "      \"city\": \"Anytown\",",
    "      \"zip\": \"12345\"",
    "    \x7d,",
    "    \"roles\": [\"admin\", \"user\"],",
    "    \"settings\": \x7b",
    "      \"notifications\": true,",
    "      \"theme\": \"dark\"",
    "    \x7d,",
    "    \"tags\": [",
    "      \x7b\"id\": 1, \"name\": \"important\"\x7d,",
    "      \x7b\"id\": 2, \"name\": \"personal\"\x7d",
    "    ],",
    "    \"misc\": [1, \"test\", true]",
    "  \x7d",
    "\x7d"]

end TypeSketch
