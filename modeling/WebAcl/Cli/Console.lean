namespace WebAcl.Cli

structure Table where
  title : String
  columns : List String
  rows : List (List String)
  deriving DecidableEq, Repr

/-- A line with markup in square brackets, or a table. -/
inductive Shown where
  | line (markup : String)
  | table (t : Table)
  deriving DecidableEq, Repr

end WebAcl.Cli
