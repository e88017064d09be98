import Vraxel.Lib.Txn
/-
  Programs on a part of a store.

  A store can hold a smaller one next to things of its own. A `Part` says where it lies, and
  `Part.on` runs a program of the smaller store on the larger; one that only reads does so there
  as well.
-/

namespace Txn

structure Part (S T : Type) where
  get : S → T
  set : T → S → S
  get_set : ∀ t s, get (set t s) = t
  set_get : ∀ s, set (get s) s = s

namespace Part

variable {S T E α : Type} (p : Part S T)

def on (x : M T E α) : M S E α := fun s => (x.result (p.get s), p.set (x.exec (p.get s)) s)

theorem readsOnly_on {x : M T E α} (h : ReadsOnly x) : ReadsOnly (p.on x : M S E α) := by
  intro s
  show p.set (x.exec (p.get s)) s = s
  rw [h, p.set_get]

end Part

end Txn
