/-
  Meterbank.Proofs.Sql.Addressing — names that lead to one file twice.

  A store opens its database under one name for the connection that writes
  and for those that read.  What may be done differs; the place, and how
  it is reached, do not.

  Main results:
    * `parse_kin` — who writes and who reads go to the same place.
    * `OfFile` — the names by which a database is made in a file.
-/
import Meterbank.Disk.Opening

namespace Meterbank.Sql.Address

open Meterbank.Text

/-- Two addresses of one place, of which the second may be for reading only. -/
structure Kin (a b : Address) : Prop where
  name : b.name = a.name
  vfs : b.vfs = a.vfs
  sharesGate : b.sharesGate = a.sharesGate
  immutable : b.immutable = a.immutable
  nolock : b.nolock = a.nolock
  mode : b.mode = a.mode ∨ a.mode = .file .create ∧ b.mode = .file .read

variable {a b a' b' : Address}

/-- Setting the mode gives one that depends on the value alone. -/
theorem setMode_ok {value : List UInt8} (h : a.setMode value = .ok a') :
    a' = { a with
      mode := if value = bytes "memory" then .memory
        else .file ((permissionOf? value).getD .read) } := by
  unfold setMode at h
  split at h
  · next hmemory => rw [if_pos hmemory, ← Except.ok.inj h]
  · next hmemory =>
    rw [if_neg hmemory]
    split at h
    · exact absurd h (by simp)
    · next hp _ => rw [hp, ← Except.ok.inj h, Option.getD_some]
    · next hp _ =>
      split at h
      · exact absurd h (by simp)
      · rw [hp, ← Except.ok.inj h, Option.getD_some]

theorem Kin.setMode (h : Kin a b) {value : List UInt8} (ha : a.setMode value = .ok a')
    (hb : b.setMode value = .ok b') : Kin a' b' := by
  rw [setMode_ok ha, setMode_ok hb]
  exact ⟨h.name, h.vfs, h.sharesGate, h.immutable, h.nolock, .inl rfl⟩

theorem Kin.setCache (h : Kin a b) {value : List UInt8} (ha : a.setCache value = .ok a')
    (hb : b.setCache value = .ok b') : Kin a' b' := by
  unfold Address.setCache at ha hb
  split at ha
  · next hshared =>
    rw [if_pos hshared] at hb
    rw [← Except.ok.inj ha, ← Except.ok.inj hb]
    exact ⟨h.name, h.vfs, rfl, h.immutable, h.nolock, h.mode⟩
  · next hshared =>
    rw [if_neg hshared] at hb
    split at ha
    · next hprivate =>
      rw [if_pos hprivate] at hb
      rw [← Except.ok.inj ha, ← Except.ok.inj hb]
      exact ⟨h.name, h.vfs, rfl, h.immutable, h.nolock, h.mode⟩
    · exact absurd ha (by simp)

theorem Kin.follow (h : Kin a b) {option : Setting} (ha : a.follow option = .ok a')
    (hb : b.follow option = .ok b') : Kin a' b' := by
  unfold Address.follow at ha hb
  split at ha
  · next hmode =>
    rw [if_pos hmode] at hb
    exact h.setMode ha hb
  · next hmode =>
    rw [if_neg hmode] at hb
    split at ha
    · next hcache =>
      rw [if_pos hcache] at hb
      exact h.setCache ha hb
    · next hcache =>
      rw [if_neg hcache] at hb
      rw [← Except.ok.inj ha, ← Except.ok.inj hb]
      exact h

theorem Kin.followAll (h : Kin a b) {options : List Setting} (ha : a.followAll options = .ok a')
    (hb : b.followAll options = .ok b') : Kin a' b' := by
  induction options generalizing a b with
  | nil =>
    rw [← Except.ok.inj ha, ← Except.ok.inj hb]
    exact h
  | cons option options ih =>
    unfold Address.followAll at ha hb
    split at ha
    · exact absurd ha (by simp)
    · next a₁ ha₁ =>
      split at hb
      · exact absurd hb (by simp)
      · next b₁ hb₁ => exact ih (h.follow ha₁ hb₁) ha hb

theorem Kin.setVfs (h : Kin a b) {options : List Setting} (ha : setVfs options a = .ok a')
    (hb : setVfs options b = .ok b') : Kin a' b' := by
  unfold Address.setVfs at ha hb
  split at ha
  · next hnone =>
    rw [hnone] at hb
    rw [← Except.ok.inj ha, ← Except.ok.inj hb]
    exact h
  · next value hvalue =>
    rw [hvalue] at hb
    simp only at hb
    split at ha
    · next vfs hvfs =>
      rw [hvfs] at hb
      rw [← Except.ok.inj ha, ← Except.ok.inj hb]
      exact ⟨h.name, rfl, h.sharesGate, h.immutable, h.nolock, h.mode⟩
    · exact absurd ha (by simp)

theorem ofFile_kin (name : List UInt8) : Kin (ofFile name .create) (ofFile name .read) :=
  ⟨rfl, rfl, rfl, rfl, rfl, .inr ⟨rfl, rfl⟩⟩

/-- **Who writes and who reads go to the same place**, whatever the name says. -/
theorem parse_kin {name : String} (ha : parse .create name = .ok a) (hb : parse .read name = .ok b) :
    Kin a b := by
  unfold parse at ha hb
  simp only at ha hb
  split at ha
  · next hscheme =>
    rw [if_pos hscheme] at hb
    unfold parseRest at ha hb
    split at ha
    · exact absurd ha (by simp)
    · next rest hrest =>
      rw [hrest] at hb
      simp only at ha hb
      split at ha
      · exact absurd ha (by simp)
      · next a₁ ha₁ =>
        split at hb
        · exact absurd hb (by simp)
        · next b₁ hb₁ =>
          have hkin := (ofFile_kin _).followAll ha₁ hb₁
          have hsaid : ∀ immutable nolock,
              Kin { a₁ with immutable, nolock } { b₁ with immutable, nolock } := fun _ _ =>
            ⟨hkin.name, hkin.vfs, hkin.sharesGate, rfl, rfl, hkin.mode⟩
          exact (hsaid _ _).setVfs ha hb
  · next hscheme =>
    rw [if_neg hscheme] at hb
    rw [← Except.ok.inj ha, ← Except.ok.inj hb]
    exact ofFile_kin _

/-- Where what is written by way of an address goes. -/
def route (a : Address) : Keeping :=
  if a.nolock then .direct
  else
    match a.vfs with
    | .unlocked | .lockFiles => .direct
    | _ => .logged

theorem route_cases (a : Address) : a.route = .direct ∨ a.route = .logged := by
  unfold route
  split
  · exact .inl rfl
  · split
    · exact .inl rfl
    · exact .inl rfl
    · exact .inr rfl

theorem Kin.route (h : Kin a b) : b.route = a.route := by
  unfold Address.route
  rw [h.nolock, h.vfs]

/-- A name by which a database is made in a file, and found there again: the address of who
writes, and that of who reads. -/
structure OfFile (name : String) (a b : Address) : Prop where
  noNul : (bytes name).contains 0 = false
  writer : parse .create name = .ok a
  reader : parse .read name = .ok b
  inFile : a.isInMemory = false
  vfs : a.vfs ≠ .memory
  lasting : a.immutable = false
  creates : a.mode = .file .create

namespace OfFile

variable {name : String}

theorem kin (h : OfFile name a b) : Kin a b := parse_kin h.writer h.reader

theorem inFile_reader (h : OfFile name a b) : b.isInMemory = false := by
  have hin := h.inFile
  unfold isInMemory at hin ⊢
  rw [h.kin.name]
  rw [decide_eq_false_iff_not, not_or] at hin ⊢
  refine ⟨?_, hin.2⟩
  rcases h.kin.mode with hmode | ⟨-, hmode⟩
  · rw [hmode]
    exact hin.1
  · rw [hmode]
    simp

theorem isWritable (h : OfFile name a b) : a.isWritable = true := by
  rw [Address.isWritable, h.creates]
  decide

/-- The name of a database in memory is not one of these. -/
theorem ne_memoryName (h : OfFile name a b) : name ≠ Connection.memoryName := by
  rintro rfl
  have hmemory : parse .create Connection.memoryName =
      .ok (ofFile (bytes Connection.memoryName) .create) := parse_plain _ _ (by decide)
  have hin := h.inFile
  rw [← Except.ok.inj (hmemory.symm.trans h.writer)] at hin
  exact absurd hin (by decide)

end OfFile

end Meterbank.Sql.Address
