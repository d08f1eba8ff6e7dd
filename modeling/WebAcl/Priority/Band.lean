import WebAcl.Policy.Choice

namespace WebAcl

/-- A range of priorities from `first` to `last`, without an upper end if `last` is absent. The
priorities of a custom band are chosen by the user. -/
structure Band where
  category : Category
  first : Int
  last : Option Int
  description : String
  custom : Bool := false
  deriving DecidableEq, Repr

namespace Band

def preCustomLimit : Int := 10

def postCustomFloor : Int := 30

/-- The band of a category. User rules that run first share their range with the block lists. -/
def of : Category → Band
  | .preCustom => ⟨.preCustom, 0, some (preCustomLimit - 1), "Caller pre-rules", true⟩
  | .blockV4 => ⟨.blockV4, 1, some 2, "IPv4 blocklist (forwarded IP, source IP)", false⟩
  | .blockV6 => ⟨.blockV6, 3, some 4, "IPv6 blocklist (forwarded IP, source IP)", false⟩
  | .allowPath => ⟨.allowPath, 10, some 10, "Path allowlist", false⟩
  | .allowV4 => ⟨.allowV4, 11, some 12, "IPv4 allowlist (forwarded IP, source IP)", false⟩
  | .allowV6 => ⟨.allowV6, 13, some 14, "IPv6 allowlist (forwarded IP, source IP)", false⟩
  | .allowUserAgent => ⟨.allowUserAgent, 15, some 15, "User-agent allowlist", false⟩
  | .managed => ⟨.managed, 20, some 26, "Managed rule groups", false⟩
  | .rateLimit => ⟨.rateLimit, 30, some 30, "Rate-based rule", false⟩
  | .postCustom => ⟨.postCustom, postCustomFloor + 1, none, "Caller post-rules", true⟩

def all : List Band :=
  Choice.all.map of

def width? (b : Band) : Option Int :=
  b.last.map (· - b.first + 1)

def contains (b : Band) (priority : Int) : Bool :=
  b.first ≤ priority && b.last.all (priority ≤ ·)

def priorities (b : Band) : List Int :=
  (List.range (b.width?.getD 0).toNat).map fun n : Nat ↦ b.first + (n : Int)

def label (b : Band) : String :=
  match b.category with
  | .preCustom => s!"< {preCustomLimit}"
  | .postCustom => s!"> {postCustomFloor}"
  | _ => if b.last = some b.first then s!"{b.first}" else s!"{b.first}-{b.last.getD b.first}"

def fixedOf? (priority : Int) : Option Band :=
  all.find? fun b ↦ !b.custom && b.contains priority

end Band

end WebAcl
