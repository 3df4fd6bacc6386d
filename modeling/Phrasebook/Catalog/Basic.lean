import Phrasebook.Record.Json
import Phrasebook.Json.Writer

/-!
# Catalogs

A catalog holds the published records under their keys. It is written as one JSON object and, from the same data, as a
script module with a lookup function.
-/

namespace Phrasebook

/-- Records under their keys. -/
abbrev Catalog := Entries String Record

namespace Catalog

/-- The entries in the order in which they are written: by key if that is wanted, else as they are. -/
def arranged (sorted : Bool) (c : Catalog) : Catalog :=
  if sorted then c.mergeSort fun a b => !decide (b.1 < a.1) else c

def toJson (sorted : Bool) (c : Catalog) : Json :=
  .object ((c.arranged sorted).map fun entry => (entry.1, entry.2.toJson))

def dataText (sorted : Bool) (c : Catalog) : String := Json.write .indented (c.toJson sorted)

def fileText (sorted : Bool) (c : Catalog) : String := c.dataText sorted ++ "\n"

def linesText (lines : List String) : String := String.join (lines.map (· ++ "\n"))

/-- The lines before the data in the lookup module. -/
def moduleHeaderLines : List String :=
  ["/**",
    " * Extracted strings database",
    " * Generated automatically by textmark",
    " * DO NOT EDIT MANUALLY",
    " */",
    ""]

/-- What stands before the data in the lookup module. -/
def moduleHeader : String := linesText moduleHeaderLines ++ "const strings = "

/-- The lines after the data in the lookup module. -/
def moduleFooterLines : List String :=
  ["",
    "const DEFAULT_LOCALE = '" ++ Locale.fallback.code ++ "';",
    "",
    "/**",
    " * Get text by hash with locale support",
    " * @param \x7bstring\x7d hash - The hash of the string",
    " * @param \x7bstring\x7d locale - The locale to use (" ++ ", ".intercalate Locale.codes ++ ")",
    " * @returns \x7bstring\x7d The translated text",
    " */",
    "function t(hash, locale = DEFAULT_LOCALE) \x7b",
    "  const entry = strings[hash];",
    "  if (!entry) \x7b",
    "    return \x60[$\x7bhash.substring(0, " ++ toString Key.placeholderLength ++ ")\x7d]\x60;",
    "  \x7d",
    "",
    "  const translation = entry.translations[locale];",
    "  if (!translation) \x7b",
    "    return entry.translations[DEFAULT_LOCALE] || entry.text;",
    "  \x7d",
    "",
    "  return translation;",
    "\x7d",
    "",
    "module.exports = strings;",
    "module.exports.t = t;"]

/-- What stands after the data in the lookup module. -/
def moduleFooter : String := ";\n" ++ linesText moduleFooterLines

def moduleText (sorted : Bool) (c : Catalog) : String := moduleHeader ++ c.dataText sorted ++ moduleFooter

end Catalog
end Phrasebook
