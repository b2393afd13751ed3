/-
  Meterbank.Proofs.Disk.Writing — what is written stays.

  What a statement writes through a gate goes into the file or into the
  log.  Bringing the log into the file, closing a gate, or doing neither,
  the disk goes on to house the database, as it was written last.

  Main results:
    * `Houses.store` — what is written becomes the database.
    * `Houses.checkpoint` — bringing the log into the file changes nothing.
    * `Houses.release` — closing all gates of a store changes nothing.
-/
import Meterbank.Disk.Opening
import Meterbank.Proofs.Disk.Housing

namespace Meterbank.Disk

open Meterbank.Sql Meterbank.Text

variable {d d' : Disk} {n g : Nat} {place : Place} {k : Keeping} {db : Database}

/-! ## The file and its log -/

/-- Nothing is written unless the database has the form that fits the gates to it. -/
def Begun (d : Disk) (n : Nat) (k : Keeping) : Prop :=
  k = .logged → (d.volume n).form = .logged

theorem Follows.begun (h : Follows n place k d db d') (hd : d.Begun n k) : d'.Begun n k :=
  fun hk => h.logged (hd hk)

/-- Writing the file anew. -/
theorem Houses.engrave (h : d.Houses n place k) :
    Follows n place k d (d.volume n).current (d.engrave n) := by
  obtain ⟨content, hfile⟩ := h.file
  have hplace : d.isInPlace n place = true := by simp [isInPlace, hfile]
  unfold Disk.engrave
  simp only [h.home]
  cases (d.volume n).content? with
  | none => exact h.refl
  | some content =>
    simp only [hplace]
    exact h.putFile content

theorem gates_engrave (d : Disk) (n : Nat) : (d.engrave n).gates = d.gates := by
  unfold engrave
  simp only
  split
  · split <;> rfl
  · rfl

/-- There are no unfinished changes to be taken away. -/
theorem Houses.dropJournal (h : d.Houses n place k) : d.dropFile (journalOf place) = d := by
  rw [dropFile, content?_of_none h.journal]
  rfl

/-- The writes of the log are brought into the file. -/
theorem Houses.settle (h : d.Houses n place k) :
    Follows n place k d (d.volume n).current (d.settle n) ∧
      ((d.settle n).volume n).unsettled = false ∧ (d.settle n).gates = d.gates := by
  have hset := h.setVolume
    (v := { d.volume n with settled := (d.volume n).current, unsettled := false })
    h.home h.form id (fun _ => rfl) (fun hunsettled => absurd hunsettled (by simp))
  have hsettled : ((d.setVolume n { d.volume n with
      settled := (d.volume n).current, unsettled := false }).volume n).unsettled = false := by
    rw [volume_setVolume _ _ _ h.number]
  unfold Disk.settle
  simp only
  split
  · have hengrave := hset.houses.engrave
    rw [hset.current] at hengrave
    refine ⟨hset.trans hengrave, ?_, gates_engrave _ _⟩
    rw [volume_engrave]
    exact hsettled
  · exact ⟨hset, hsettled, rfl⟩

/-! ## Writing -/

/-- What is written through a gate whose log is open. -/
theorem Houses.storeLogged (h : d.Houses n place k) (hform : (d.volume n).form = .logged)
    (hlog : d.HasLog place) (db : Database) :
    let unsettled := (d.volume n).unsettled || decide (db ≠ (d.volume n).current)
    let d' := d.setVolume n { d.volume n with current := db, unsettled }
    Follows n place k d db
      (if unsettled && (d.content? (logOf place)).isSome then
        d'.putEntry (logOf place) (.file logContent) else d') := by
  intro unsettled d'
  rw [hlog.content, Bool.and_true]
  by_cases hwritten : unsettled = true
  · rw [if_pos hwritten]
    -- The log may be written first, as nothing can tell which came first.
    have hput := h.putLog logContent hform fun _ => rfl
    have hset := hput.houses.setVolume (v := { d.volume n with current := db, unsettled })
      h.home h.form (fun _ => hform) (fun hne => absurd hform hne)
      (fun _ => Files.at?_put _ _ _ logOf_isAbove)
    exact hput.trans hset
  · rw [if_neg hwritten]
    refine h.setVolume (v := { d.volume n with current := db, unsettled }) h.home h.form
      (fun _ => hform) (fun hne => absurd hform hne) fun hunsettled => absurd hunsettled hwritten

/-- What is written through a gate that goes to the file. -/
theorem Houses.storeDirect (h : d.Houses n place k) (hk : k = .direct) (db : Database) :
    let form := if (d.volume n).form = .blank ∧ db ≠ .empty then .plain else (d.volume n).form
    let d' := (d.setVolume n { d.volume n with current := db, settled := db, form }).engrave n
    Follows n place k d db
      (if db = (d.volume n).current then d' else d'.dropFile (journalOf place)) := by
  intro form d'
  have hunlogged : (d.volume n).form ≠ .logged := by
    rcases h.form with hblank | hiff
    · rw [hblank]
      simp
    · rw [Ne, hiff, hk]
      simp
  have hstill : form ≠ .logged := by
    simp only [form]
    split
    · simp
    · exact hunlogged
  have hset := h.setVolume
    (v := { d.volume n with current := db, settled := db, form }) h.home
    (.inr ⟨fun hf => absurd hf hstill, fun hf => absurd (hk.symm.trans hf) (by simp)⟩)
    (fun hf => absurd hf hunlogged) (fun _ => (h.unlogged hunlogged).2) h.unsettled
  have hengrave := hset.houses.engrave
  rw [hset.current] at hengrave
  have hd' : Follows n place k d db d' := hset.trans hengrave
  rw [hd'.houses.dropJournal, ite_self]
  exact hd'

/-- **What is written through a gate becomes the database**, if the gate has been entered. -/
theorem Houses.store (h : d.Houses n place k) {writes : Bool} (hg : d.Admits n g writes)
    (hbegun : d.Begun n k) (hentered : (d.volume n).form = .logged → (d.gate g).log = .opened)
    (db : Database) : Follows n place k d db (d.store g db) := by
  obtain ⟨hfound, hvolume, -⟩ := hg.gate
  unfold Disk.store
  simp only [hvolume, h.home]
  rcases (h.sturdy hg).log with hclosed | ⟨hopened, hform, hlog⟩
  · have hk : k = .direct := by
      refine h.keeping.resolve_right fun hk => ?_
      rw [hentered (hbegun hk)] at hclosed
      exact absurd hclosed (by simp)
    have hstore := h.storeDirect hk db
    simp only [h.home] at hstore
    simp only [hclosed]
    exact hstore
  · rw [hvolume] at hform
    have hstore := h.storeLogged hform hlog db
    simp only [h.home] at hstore
    simp only [hopened]
    exact hstore

/-! ## Bringing the log into the file -/

/-- **Bringing the log into the file changes nothing.** -/
theorem Houses.checkpoint (h : d.Houses n place k) {writes : Bool} (hg : d.Admits n g writes) :
    Follows n place k d (d.volume n).current (d.checkpoint g) := by
  obtain ⟨-, henter, -⟩ := h.enter hg
  have hg₁ := henter.admits hg
  unfold Disk.checkpoint
  simp only
  generalize hd₁ : (d.enter g).2 = d₁ at henter hg₁
  obtain ⟨-, hvolume, -⟩ := hg₁.gate
  simp only [hvolume, henter.houses.home]
  split
  · next hwrites =>
    obtain ⟨hsettle, hsettled, -⟩ := henter.houses.settle
    rw [henter.current] at hsettle
    split
    · -- The log is emptied, now that nothing is only in it.
      have hform : ((d₁.settle n).volume n).form = .logged := by
        refine hsettle.logged ?_
        rcases (henter.houses.sturdy hg₁).log with hclosed | ⟨-, hform, -⟩
        · rw [hclosed] at hwrites
          exact absurd hwrites.1 (by simp)
        · rwa [hvolume] at hform
      have hput := hsettle.houses.putLog [] hform fun hunsettled => by
        rw [hsettled] at hunsettled
        exact absurd hunsettled (by simp)
      rw [hsettle.current] at hput
      exact henter.trans (hsettle.trans hput)
    · exact henter.trans hsettle
  · exact henter

/-! ## Leaving -/

theorem isLogOpen_of_gates (h : d'.gates = d.gates) (n : Nat) : d'.isLogOpen n = d.isLogOpen n := by
  rw [isLogOpen, isLogOpen, h]

/-- The index is taken away. -/
theorem Houses.dropIndex (h : d.Houses n place k) :
    Follows n place k d (d.volume n).current (d.dropFile (indexOf place)) := by
  unfold dropFile
  split
  · exact h.withIndex _ (fun p hp => Files.at?_drop_of_ne hp)
      (by rw [Files.at?_drop indexOf_isAbove]; simp)
  · exact h.refl

/-- Closing a log that nobody has open any more. -/
theorem Houses.closeLog (h : d.Houses n place k) (hclosed : d.isLogOpen n = false) :
    Follows n place k d (d.volume n).current (d.closeLog n) := by
  unfold Disk.closeLog
  simp only [h.home]
  split
  · exact h.refl
  · obtain ⟨hsettle, hsettled, hgates⟩ := h.settle
    have hdrop : Follows n place k d (d.volume n).current ((d.settle n).dropFile (logOf place)) := by
      unfold dropFile
      split
      · have hlog := hsettle.houses.dropLog hsettled
          ((isLogOpen_of_gates hgates n).trans hclosed)
        rw [hsettle.current] at hlog
        exact hsettle.trans hlog
      · exact hsettle
    split
    · have hindex := hdrop.houses.dropIndex
      rw [hdrop.current] at hindex
      exact hdrop.trans hindex
    · exact hdrop

/-- **Closing a connection changes nothing.** -/
theorem Houses.leave (h : d.Houses n place k) {writes : Bool} (hg : d.Admits n g writes) :
    Follows n place k d (d.volume n).current (d.leave g) := by
  obtain ⟨hfound, rfl, -⟩ := hg.gate
  have hkeys := h.keys _ (List.mem_of_getElem? hfound)
  obtain ⟨hkeeping, hlog⟩ := h.sturdy hg
  unfold Disk.leave
  simp only
  split
  · next hmany =>
    -- Others go through the gate still.
    exact h.setGate _ _ rfl rfl (fun _ => ⟨hkeeping, hlog⟩) fun _ => hkeys (by omega)
  · have hset := h.setGate g { d.gate g with users := 0, log := .closed }
      rfl rfl (fun _ => ⟨hkeeping, .inl rfl⟩) (fun hnone => absurd hnone (by simp))
    split
    · next hlast =>
      have hclose := hset.houses.closeLog (Bool.eq_false_iff.2 hlast.2.2)
      rw [hset.current] at hclose
      exact hset.trans hclose
    · exact hset

/-- The gates of a store lead to a database, and one of them lets writes through. -/
structure AdmitsAll (d : Disk) (n : Nat) (gates : Gates) : Prop where
  writer : d.Admits n gates.writer true
  readers : ∀ g ∈ gates.readers, d.Admits n g false

theorem Follows.admitsAll (h : Follows n place k d db d') {gates : Gates} (hg : d.AdmitsAll n gates) :
    d'.AdmitsAll n gates :=
  ⟨h.admits hg.writer, fun g hmem => h.admits (hg.readers g hmem)⟩

theorem Houses.leaveAll (h : d.Houses n place k) {gs : List Nat}
    (hgs : ∀ g ∈ gs, d.Admits n g false) :
    Follows n place k d (d.volume n).current (gs.foldl Disk.leave d) := by
  induction gs generalizing d with
  | nil => exact h.refl
  | cons g gs ih =>
    rw [List.forall_mem_cons] at hgs
    have hleave := h.leave hgs.1
    have hrest := ih hleave.houses fun g hg => hleave.admits (hgs.2 g hg)
    rw [hleave.current] at hrest
    exact hleave.trans hrest

/-- **Closing all connections of a store changes nothing.** -/
theorem Houses.release (h : d.Houses n place k) {gates : Gates} (hg : d.AdmitsAll n gates) :
    Follows n place k d (d.volume n).current (Disk.release gates d) := by
  have hleave := h.leave hg.writer
  have hrest := hleave.houses.leaveAll fun g hmem => hleave.admits (hg.readers g hmem)
  rw [hleave.current] at hrest
  exact hleave.trans hrest

end Meterbank.Disk
