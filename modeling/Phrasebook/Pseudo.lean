/-!
# The pseudo locale

A text that was extracted is shown in the pseudo locale with accented letters, lengthened and in brackets, so that a
text that was not stands out.
-/

namespace Phrasebook.Pseudo

def accents : List (Char × Char) :=
  "abcdefghijklmnopqrstuvwxyzABCDEFGHIJKLMNOPQRSTUVWXYZ".toList.zip
    "áƀçðéƒĝĥíĵķļɱñóþǫŕšţúṽŵẋýžÁƁÇÐÉƑĜĤÍĴĶĻṀÑÓÞǪŔŠŢÚṼŴẊÝŽ".toList

/-- A letter with its accent; other characters stay. -/
def accent (c : Char) : Char :=
  match accents.find? (·.1 == c) with
  | some (_, accented) => accented
  | none => c

def padding : List Char := ['·', '·', '·']

/-- A text in the pseudo locale; the empty text stays. -/
def render (text : String) : String :=
  if text.isEmpty then text
  else String.ofList ('[' :: text.toList.map accent ++ padding ++ [']'])

end Phrasebook.Pseudo
