namespace WebAcl.Text

abbrev Intervals := List (Nat × Nat)

def Intervals.has (rs : Intervals) (n : Nat) : Bool :=
  rs.any fun r ↦ r.1 ≤ n && n ≤ r.2

end WebAcl.Text
