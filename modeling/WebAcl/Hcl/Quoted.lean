namespace WebAcl.Hcl

def opensTemplate (c : Char) (rest : List Char) : Bool :=
  (c == '$' || c == '%') && rest.head? == some '\x7b'

def escape : List Char → List Char
  | [] => []
  | c :: cs =>
    if c = '\\' ∨ c = '"' then '\\' :: c :: escape cs
    else if opensTemplate c cs then c :: c :: escape cs
    else c :: escape cs

def escapeText (s : String) : String :=
  String.ofList (escape s.toList)

def quote (s : String) : String :=
  "\"" ++ escapeText s ++ "\""

end WebAcl.Hcl
