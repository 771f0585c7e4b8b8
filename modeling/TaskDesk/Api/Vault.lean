import TaskDesk.Api.Error

/-!
# Where credentials are kept

## Main definitions

* `Vault`: what every place for credentials can do.
* `LawfulVault`: a vault that forgets what it is told to forget, and nothing else.
* `MemoryVault`: two slots and nothing behind them.
-/

namespace TaskDesk

/-- A place for credentials, one for each scope. -/
class Vault (κ : Type) where
  get : κ → Scope → Option String
  set : κ → Scope → String → κ
  clear : κ → Scope → κ

/-- A vault that forgets what it is told to forget, and nothing else. -/
class LawfulVault (κ : Type) [Vault κ] : Prop where
  get_clear_self (v : κ) (scope : Scope) : Vault.get (Vault.clear v scope) scope = none
  get_clear_of_ne (v : κ) {scope other : Scope} (h : other ≠ scope) :
    Vault.get (Vault.clear v scope) other = Vault.get v other

/-- Two slots. -/
structure Slots where
  admin : Option String := none
  token : Option String := none
deriving DecidableEq, Repr, Inhabited

namespace Slots

def get (s : Slots) : Scope → Option String
  | .admin => s.admin
  | .token => s.token

def put (s : Slots) (scope : Scope) (secret : Option String) : Slots :=
  match scope with
  | .admin => { s with admin := secret }
  | .token => { s with token := secret }

@[simp] theorem get_put_self (s : Slots) (scope : Scope) (secret : Option String) :
    (s.put scope secret).get scope = secret := by
  cases scope <;> rfl

theorem get_put_of_ne (s : Slots) {scope other : Scope} (h : other ≠ scope)
    (secret : Option String) : (s.put scope secret).get other = s.get other := by
  cases scope <;> cases other <;> first | rfl | exact absurd rfl h

end Slots

/-- Credentials that live as long as the program. -/
structure MemoryVault where
  slots : Slots := {}
deriving DecidableEq, Repr, Inhabited

instance : Vault MemoryVault where
  get v scope := v.slots.get scope
  set v scope secret := ⟨v.slots.put scope (some secret)⟩
  clear v scope := ⟨v.slots.put scope none⟩

instance : LawfulVault MemoryVault where
  get_clear_self v scope := v.slots.get_put_self scope none
  get_clear_of_ne v _ _ h := v.slots.get_put_of_ne h none

end TaskDesk
