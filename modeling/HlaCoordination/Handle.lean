import Std.Data.ExtTreeMap
import Std.Data.ExtTreeSet

/-!
Identities handed out by the coordination authority. Federation and federate handles are
32-bit words, session ids are 64-bit words, and every counter starts at one and wraps. Handles
are ordered by their word, and `HandleSet` is a set of federate handles in that order, so two
sets with the same members are equal.
-/

namespace HlaCoordination

structure FederationHandle where
  value : UInt32
  deriving DecidableEq, Repr, Inhabited

structure FederateHandle where
  value : UInt32
  deriving DecidableEq, Repr, Inhabited

structure SessionId where
  value : UInt64
  deriving DecidableEq, Repr, Inhabited

instance : Ord FederationHandle := ⟨fun a b => compare a.value b.value⟩
instance : Ord FederateHandle := ⟨fun a b => compare a.value b.value⟩
instance : Ord SessionId := ⟨fun a b => compare a.value b.value⟩

instance : Std.TransOrd FederateHandle where
  eq_swap {a b} :=
    (inferInstance : Std.TransOrd UInt32).toOrientedCmp.eq_swap (a := a.value) (b := b.value)
  isLE_trans {a b c} :=
    (inferInstance : Std.TransOrd UInt32).isLE_trans (a := a.value) (b := b.value) (c := c.value)

instance : Std.LawfulEqOrd FederateHandle where
  compare_self {a} := (inferInstance : Std.LawfulEqOrd UInt32).compare_self (a := a.value)
  eq_of_compare {a b} h := by
    cases a; cases b
    exact congrArg FederateHandle.mk ((inferInstance : Std.LawfulEqOrd UInt32).eq_of_compare h)

instance : Std.TransOrd SessionId where
  eq_swap {a b} :=
    (inferInstance : Std.TransOrd UInt64).toOrientedCmp.eq_swap (a := a.value) (b := b.value)
  isLE_trans {a b c} :=
    (inferInstance : Std.TransOrd UInt64).isLE_trans (a := a.value) (b := b.value) (c := c.value)

instance : Std.LawfulEqOrd SessionId where
  compare_self {a} := (inferInstance : Std.LawfulEqOrd UInt64).compare_self (a := a.value)
  eq_of_compare {a b} h := by
    cases a; cases b
    exact congrArg SessionId.mk ((inferInstance : Std.LawfulEqOrd UInt64).eq_of_compare h)

abbrev HandleSet := Std.ExtTreeSet FederateHandle

namespace HandleSet

def ofList (hs : List FederateHandle) : HandleSet := Std.ExtTreeSet.ofList hs

def isSubset (s t : HandleSet) : Bool := s.all fun h => t.contains h

end HandleSet

/-- How many handles a counter has issued, modulo the word size. -/
structure HandleCounter where
  issued : UInt32 := 0
  deriving DecidableEq, Repr

def HandleCounter.next (c : HandleCounter) : UInt32 × HandleCounter :=
  (c.issued + 1, ⟨c.issued + 1⟩)

structure SessionCounter where
  issued : UInt64 := 0
  deriving DecidableEq, Repr

def SessionCounter.next (c : SessionCounter) : SessionId × SessionCounter :=
  (⟨c.issued + 1⟩, ⟨c.issued + 1⟩)

end HlaCoordination
