import WebAcl.Text.CharacterName.Alias
import WebAcl.Text.CharacterName.Alphabets
import WebAcl.Text.CharacterName.Ancient
import WebAcl.Text.CharacterName.Composed
import WebAcl.Text.CharacterName.Pictures
import WebAcl.Text.CharacterName.Syllables
import WebAcl.Text.CharacterName.Symbols

namespace WebAcl.Text

def nameTables : List NameTable :=
  [alphabetNames, symbolNames, syllableNames, ancientNames, pictureNames]

def listedName? (name : List Char) : Option Nat :=
  ((aliasNames.find? (·.1.toList == name)).map (·.2)).or (nameTables.findSome? (·.find? name))

def characterNamed? (name : List Char) : Option Nat :=
  -- letters of either case are allowed, except where a rule makes up the names
  match "HANGUL SYLLABLE ".toList.isPrefixOf? name with
  | some sounds => syllableNamed? sounds
  | none =>
    match "CJK UNIFIED IDEOGRAPH-".toList.isPrefixOf? name with
    | some digits => ideographNamed? digits
    | none =>
      let upper := name.map Char.toUpper
      (("VS".toList.isPrefixOf? upper).bind selectorNamed?).or (listedName? upper)

end WebAcl.Text
