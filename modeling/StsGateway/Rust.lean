import Mathlib.Data.Finmap

namespace StsGateway

/-! The parts of the language and its standard library the gateway's code leans on. -/

/-- A panic unwinds the thread; nothing after it runs. -/
structure Panic where
  message : String
deriving DecidableEq, Repr

section Panicking

variable {α β : Type}

@[simp] theorem ok_bind (value : α) (next : α → Except Panic β) :
    (Except.ok value >>= next) = next value := rfl

@[simp] theorem error_bind (panic : Panic) (next : α → Except Panic β) :
    (Except.error panic >>= next) = .error panic := rfl

@[simp] theorem pure_eq_ok (value : α) : (pure value : Except Panic α) = .ok value := rfl

theorem bind_eq_ok {first : Except Panic α} {next : α → Except Panic β} {result : β} :
    (first >>= next) = .ok result ↔ ∃ value, first = .ok value ∧ next value = .ok result := by
  cases first <;> simp

def unwrap : Option α → Except Panic α
  | some value => .ok value
  | none => .error ⟨"called `Option::unwrap()` on a `None` value"⟩

/-- `Result::unwrap`. -/
def unwrapOk {ε : Type} : Except ε α → Except Panic α
  | .ok value => .ok value
  | .error _ => .error ⟨"called `Result::unwrap()` on an `Err` value"⟩

/-- A `Result` whose error nothing depends on. -/
def resultOf : Option α → Except Unit α
  | some value => .ok value
  | none => .error ()

theorem unwrapOk_eq_ok {result : Option α} {value : α} :
    unwrapOk (resultOf result) = .ok value ↔ result = some value := by
  cases result <;> simp [unwrapOk, resultOf]

end Panicking

/-- Integer overflow panics in a `dev` build and wraps in a `release` build. -/
inductive Profile where
  | dev
  | release
deriving DecidableEq, Repr

def Profile.wrapU64 (profile : Profile) (exact : Nat) (message : String) : Except Panic UInt64 :=
  if exact < 2 ^ 64 then .ok (UInt64.ofNat exact)
  else match profile with
    | .dev => .error ⟨message⟩
    | .release => .ok (UInt64.ofNat exact)

def Profile.addUsize (profile : Profile) (left right : UInt64) : Except Panic UInt64 :=
  profile.wrapU64 (left.toNat + right.toNat) "attempt to add with overflow"

def Profile.mulU64 (profile : Profile) (left right : UInt64) : Except Panic UInt64 :=
  profile.wrapU64 (left.toNat * right.toNat) "attempt to multiply with overflow"

/-- `std::collections::HashMap` up to iteration order, which nothing here observes. -/
abbrev HashMap (Key Value : Type) := Finmap (fun _ : Key => Value)

theorem Profile.addUsize_fits (profile : Profile) (left right : UInt64)
    (fits : left.toNat + right.toNat < 2 ^ 64) :
    ∃ sum, profile.addUsize left right = .ok sum ∧ sum.toNat = left.toNat + right.toNat := by
  refine ⟨UInt64.ofNat (left.toNat + right.toNat), ?_, ?_⟩
  · simp only [addUsize, wrapU64, if_pos fits]
  · rw [UInt64.toNat_ofNat', Nat.mod_eq_of_lt fits]

theorem Profile.addUsize_dev_overflows (left right : UInt64)
    (overflows : 2 ^ 64 ≤ left.toNat + right.toNat) :
    Profile.dev.addUsize left right = .error ⟨"attempt to add with overflow"⟩ := by
  simp only [addUsize, wrapU64, if_neg (Nat.not_lt.mpr overflows)]

theorem Profile.addUsize_release_overflows (left right : UInt64)
    (overflows : 2 ^ 64 ≤ left.toNat + right.toNat) :
    ∃ sum, Profile.release.addUsize left right = .ok sum ∧
      sum.toNat = left.toNat + right.toNat - 2 ^ 64 := by
  refine ⟨UInt64.ofNat (left.toNat + right.toNat), ?_, ?_⟩
  · simp only [addUsize, wrapU64, if_neg (Nat.not_lt.mpr overflows)]
  · have leftBound := left.toNat_lt
    have rightBound := right.toNat_lt
    rw [UInt64.toNat_ofNat']
    omega

end StsGateway
