/-
  Meterbank.Proofs.Disk.Housing — a database that stays in its file.

  A disk houses a database at a place if the file there is that of the
  database, nothing lies beside it that keeps a statement out, and all
  writes that are only in the log are found in the log.  Whoever goes
  through a gate to it is let through, and whatever is done to the files
  on the way, the database is seen as it was.

  Main results:
    * `Houses.setVolume`, `Houses.withFiles`, `Houses.setGate` — what may
      be changed.
    * `Houses.openLog` — opening the log loses nothing.
    * `Houses.enter` — a statement is let through, and finds the database.
-/
import Mathlib.Data.List.Basic
import Meterbank.Disk.Writing

namespace Meterbank

open Meterbank.Sql Meterbank.Text

/-! ## Places beside a place -/

namespace Place

variable {place : Place} {s t : String}

theorem beside_ne (h : bytes s ≠ bytes t) : place.beside s ≠ place.beside t := by
  intro heq
  unfold beside at heq
  have hnames := List.append_cancel_left heq
  rw [List.singleton_inj] at hnames
  exact h (List.append_cancel_left hnames)

theorem beside_ne_self (hp : place.isAbove = false) (h : bytes s ≠ []) :
    place.beside s ≠ place := by
  have hne : place ≠ [] := by
    rintro rfl
    exact absurd hp (by simp [isAbove])
  have hlast : place = place.dropLast ++ [place.name] := by
    rw [name, List.getLastD_eq_getLast?, List.getLast?_eq_some_getLast hne, Option.getD_some,
      List.dropLast_append_getLast]
  intro heq
  unfold beside at heq
  nth_rewrite 3 [hlast] at heq
  have hnames := List.append_cancel_left heq
  rw [List.singleton_inj] at hnames
  exact h (List.append_right_eq_self.1 hnames)

/-- A name with more than two bytes added is not that of a parent. -/
theorem beside_isAbove (h : 2 < (bytes s).length) : (place.beside s).isAbove = false := by
  unfold beside
  apply isAbove_append
  intro heq
  have hlength := congrArg List.length heq
  rw [List.length_append] at hlength
  simp only [Name.parent, List.length_cons, List.length_nil] at hlength
  omega

end Place

namespace Files

variable {fs : Files} {place other : Place}

theorem at?_drop (h : place.isAbove = false) : (fs.drop place).at? place = none := by
  unfold at? drop
  rw [h, if_neg (by simp), List.lookup_eq_none_iff]
  intro e he
  have hne := (List.mem_filter.1 he).2
  simp only [decide_eq_true_eq] at hne
  exact bne_iff_ne.2 (Ne.symm hne)

theorem at?_drop_of_ne (h : other ≠ place) : (fs.drop place).at? other = fs.at? other := by
  unfold at? drop
  split
  · rfl
  · exact lookup_filter_ne place other h fs.entries

end Files

namespace Disk

/-- The file of a database, and those beside it. -/
def ownPlaces (place : Place) : List Place :=
  [place, journalOf place, logOf place, indexOf place]

variable {d d' d'' : Disk} {n g : Nat} {place : Place} {k : Keeping} {db db' : Database}

/-! ## Houses -/

/-- Whether there is a file for the log. -/
def HasLog (d : Disk) (place : Place) : Prop :=
  ∃ content, d.files.at? (logOf place) = some (.file content)

/-- A gate to a database whose log can be reached. -/
structure Sturdy (d : Disk) (place : Place) (k : Keeping) (gate : Gate) : Prop where
  keeping : gate.keeping = k
  log : gate.log = .closed ∨ gate.log = .opened ∧ (d.volume gate.volume).form = .logged ∧ d.HasLog place

/-- The database of a number lies in the file at a place, and can be reached there. -/
structure Houses (d : Disk) (n : Nat) (place : Place) (k : Keeping) : Prop where
  keeping : k = .direct ∨ k = .logged
  number : n < d.volumes.length
  home : (d.volume n).place = some place
  proper : place.isAbove = false
  fits : (journalOf place).name.fits = true
  file : ∃ content, d.files.at? place = some (.database n content)
  journal : d.files.at? (journalOf place) = none
  log : d.files.at? (logOf place) = none ∨ d.HasLog place
  index : d.files.at? (indexOf place) ≠ some .directory
  form : (d.volume n).form = .blank ∨ ((d.volume n).form = .logged ↔ k = .logged)
  /-- Who does without a log has none. -/
  unlogged : (d.volume n).form ≠ .logged →
    d.files.at? (logOf place) = none ∧ (d.volume n).unsettled = false
  /-- Writes that are only in the log are there. -/
  unsettled : (d.volume n).unsettled = true → d.files.at? (logOf place) = some (.file logContent)
  gates : ∀ gate ∈ d.gates, gate.volume = n → d.Sturdy place k gate
  /-- Who shares a gate to the place shares one that writes to the database. -/
  keys : ∀ gate ∈ d.gates, 0 < gate.users → ∀ vfs, gate.key = some (.file vfs place) →
    gate.volume = n ∧ gate.writable = true

/-- Whether a gate leads to a database, and lets writes through if asked to. -/
def Admits (d : Disk) (n g : Nat) (writes : Bool) : Prop :=
  ∃ gate, d.gates[g]? = some gate ∧ gate.volume = n ∧ (writes = true → gate.writable = true)

/-- What a disk becomes by something that leaves a database in its place, as `db`. -/
structure Follows (n : Nat) (place : Place) (k : Keeping) (d : Disk) (db : Database) (d' : Disk) :
    Prop where
  houses : d'.Houses n place k
  current : (d'.volume n).current = db
  logged : (d.volume n).form = .logged → (d'.volume n).form = .logged
  admits : ∀ {g writes}, d.Admits n g writes → d'.Admits n g writes
  elsewhere : ∀ p ∉ ownPlaces place, d'.files.at? p = d.files.at? p

theorem Houses.refl (h : d.Houses n place k) : Follows n place k d (d.volume n).current d :=
  ⟨h, rfl, id, id, fun _ _ => rfl⟩

theorem Follows.trans (h : Follows n place k d db d') (h' : Follows n place k d' db' d'') :
    Follows n place k d db' d'' where
  houses := h'.houses
  current := h'.current
  logged hform := h'.logged (h.logged hform)
  admits hg := h'.admits (h.admits hg)
  elsewhere p hp := (h'.elsewhere p hp).trans (h.elsewhere p hp)

theorem Admits.gate {writes : Bool} (h : d.Admits n g writes) :
    d.gates[g]? = some (d.gate g) ∧ (d.gate g).volume = n ∧
      (writes = true → (d.gate g).writable = true) := by
  obtain ⟨gate, hgate, hvolume, hwrites⟩ := h
  have hsame : d.gate g = gate := by rw [Disk.gate, List.getD_eq_getElem?_getD, hgate]; rfl
  rw [hsame]
  exact ⟨hgate, hvolume, hwrites⟩

/-- A log that somebody has open is there. -/
theorem Houses.hasLog (h : d.Houses n place k) (hopen : d.isLogOpen n = true) : d.HasLog place := by
  obtain ⟨gate, hgate, hcond⟩ := List.any_eq_true.1 hopen
  rw [decide_eq_true_eq] at hcond
  exact ((h.gates gate hgate hcond.1).log.resolve_left hcond.2).2.2

theorem Houses.sturdy (h : d.Houses n place k) {writes : Bool} (hg : d.Admits n g writes) :
    d.Sturdy place k (d.gate g) :=
  h.gates _ (List.mem_of_getElem? hg.gate.1) hg.gate.2.1

/-- The gate that was put in a place is there. -/
theorem gate_of_set {gate old : Gate} (hfound : d.gates[g]? = some old)
    (hgates : d'.gates = d.gates.set g gate) : d'.gate g = gate := by
  have hlt := (List.getElem?_eq_some_iff.1 hfound).1
  simp [Disk.gate, hgates, hlt]

/-! ## What may be changed -/

/-- The database may be written, and its form may become what it ought to be. -/
theorem Houses.setVolume (h : d.Houses n place k) {v : Volume} (hhome : v.place = some place)
    (hform : v.form = .blank ∨ (v.form = .logged ↔ k = .logged))
    (hlogged : (d.volume n).form = .logged → v.form = .logged)
    (hunlogged : v.form ≠ .logged → v.unsettled = false)
    (hunsettled : v.unsettled = true → d.files.at? (logOf place) = some (.file logContent)) :
    Follows n place k d v.current (d.setVolume n v) := by
  have hv : (d.setVolume n v).volume n = v := volume_setVolume d n v h.number
  refine ⟨⟨h.keeping, ?_, ?_, h.proper, h.fits, h.file, h.journal, h.log, h.index, ?_, ?_, ?_, ?_,
    h.keys⟩, ?_, ?_, fun hg => hg, fun _ _ => rfl⟩
  · rw [Disk.setVolume, List.length_set]
    exact h.number
  · rw [hv]
    exact hhome
  · rw [hv]
    exact hform
  · rw [hv]
    exact fun hne => ⟨(h.unlogged fun hold => hne (hlogged hold)).1, hunlogged hne⟩
  · rw [hv]
    exact hunsettled
  · intro gate hgate hvolume
    obtain ⟨hkeeping, hlog⟩ := h.gates gate hgate hvolume
    refine ⟨hkeeping, hlog.imp_right ?_⟩
    rintro ⟨hopened, hold, hhas⟩
    refine ⟨hopened, ?_, hhas⟩
    rw [hvolume] at hold ⊢
    rw [hv]
    exact hlogged hold
  · rw [hv]
  · rw [hv]
    exact hlogged

/-- The files beside the database may be changed, as long as the log is not lost. -/
theorem Houses.withFiles (h : d.Houses n place k) {files : Files}
    (hfile : ∃ content, files.at? place = some (.database n content))
    (hjournal : files.at? (journalOf place) = none)
    (hlog : files.at? (logOf place) = none ∨ ∃ content, files.at? (logOf place) = some (.file content))
    (hindex : files.at? (indexOf place) ≠ some .directory)
    (hunlogged : (d.volume n).form ≠ .logged → files.at? (logOf place) = none)
    (hunsettled : (d.volume n).unsettled = true → files.at? (logOf place) = some (.file logContent))
    (hopened : d.isLogOpen n = true → ∃ content, files.at? (logOf place) = some (.file content))
    (helsewhere : ∀ p ∉ ownPlaces place, files.at? p = d.files.at? p) :
    Follows n place k d (d.volume n).current { d with files } where
  houses := ⟨h.keeping, h.number, h.home, h.proper, h.fits, hfile, hjournal, hlog, hindex, h.form,
    fun hne => ⟨hunlogged hne, (h.unlogged hne).2⟩, hunsettled,
    fun gate hgate hvolume => by
      obtain ⟨hkeeping, hsturdy⟩ := h.gates gate hgate hvolume
      refine ⟨hkeeping, hsturdy.imp_right fun ⟨hlog, hform, _⟩ => ⟨hlog, hform, hopened ?_⟩⟩
      exact List.any_eq_true.2 ⟨gate, hgate, by simp [hvolume, hlog]⟩,
    h.keys⟩
  current := rfl
  logged := id
  admits := id
  elsewhere := helsewhere

/-- A gate may be opened to the log, or used by others. -/
theorem Houses.setGate (h : d.Houses n place k) (g : Nat) (gate : Gate)
    (hvolume : gate.volume = (d.gate g).volume)
    (hwritable : gate.writable = (d.gate g).writable)
    (hsturdy : (d.gate g).volume = n → d.Sturdy place k gate)
    (hkeys : 0 < gate.users → ∀ vfs, gate.key = some (.file vfs place) →
      gate.volume = n ∧ gate.writable = true) :
    Follows n place k d (d.volume n).current (d.setGate g gate) where
  houses := ⟨h.keeping, h.number, h.home, h.proper, h.fits, h.file, h.journal, h.log, h.index, h.form,
    h.unlogged, h.unsettled,
    fun other hother hother' => by
      rcases List.mem_or_eq_of_mem_set hother with hmem | rfl
      · obtain ⟨hkeeping, hlog⟩ := h.gates other hmem hother'
        exact ⟨hkeeping, hlog⟩
      · obtain ⟨hkeeping, hlog⟩ := hsturdy (hvolume ▸ hother')
        exact ⟨hkeeping, hlog⟩,
    fun other hother => by
      rcases List.mem_or_eq_of_mem_set hother with hmem | rfl
      · exact h.keys other hmem
      · exact hkeys⟩
  current := rfl
  logged := id
  admits := by
    intro i writes hi
    obtain ⟨hfound, hn, hwrites⟩ := hi.gate
    by_cases heq : g = i
    · subst heq
      have hlt : g < d.gates.length := (List.getElem?_eq_some_iff.1 hfound).1
      exact ⟨gate, by simp [Disk.setGate, hlt], hvolume.trans hn, fun hw => hwritable.trans (hwrites hw)⟩
    · exact ⟨d.gate i, by simp [Disk.setGate, List.getElem?_set_ne heq, hfound], hn, hwrites⟩
  elsewhere _ _ := rfl

/-! ## Single files -/

theorem not_mem_ownPlaces {p : Place} (h : p ∉ ownPlaces place) :
    p ≠ place ∧ p ≠ journalOf place ∧ p ≠ logOf place ∧ p ≠ indexOf place := by
  simpa [ownPlaces] using h

theorem journalOf_ne_logOf : journalOf place ≠ logOf place := Place.beside_ne (by decide)

theorem journalOf_ne_indexOf : journalOf place ≠ indexOf place := Place.beside_ne (by decide)

theorem indexOf_ne_logOf : indexOf place ≠ logOf place := Place.beside_ne (by decide)

theorem logOf_isAbove : (logOf place).isAbove = false := Place.beside_isAbove (by decide)

theorem indexOf_isAbove : (indexOf place).isAbove = false := Place.beside_isAbove (by decide)

theorem Houses.journal_ne (h : d.Houses n place k) : journalOf place ≠ place :=
  Place.beside_ne_self h.proper (by decide)

theorem Houses.log_ne (h : d.Houses n place k) : logOf place ≠ place :=
  Place.beside_ne_self h.proper (by decide)

theorem Houses.index_ne (h : d.Houses n place k) : indexOf place ≠ place :=
  Place.beside_ne_self h.proper (by decide)

/-- The file may be written anew. -/
theorem Houses.putFile (h : d.Houses n place k) (content : List UInt8) :
    Follows n place k d (d.volume n).current (d.putEntry place (.database n content)) := by
  have hlog : (d.files.put place (.database n content)).at? (logOf place) = d.files.at? (logOf place) :=
    Files.at?_put_of_ne _ _ _ _ h.log_ne
  refine h.withFiles ⟨content, Files.at?_put _ _ _ h.proper⟩ ?_ ?_ ?_ ?_ ?_ ?_ ?_
  · rw [Files.at?_put_of_ne _ _ _ _ h.journal_ne]
    exact h.journal
  · rw [hlog]
    exact h.log
  · rw [Files.at?_put_of_ne _ _ _ _ h.index_ne]
    exact h.index
  · rw [hlog]
    exact fun hne => (h.unlogged hne).1
  · rw [hlog]
    exact h.unsettled
  · rw [hlog]
    exact h.hasLog
  · exact fun p hp => Files.at?_put_of_ne _ _ _ _ (not_mem_ownPlaces hp).1

/-- The log may be written anew, if it does not lose writes. -/
theorem Houses.putLog (h : d.Houses n place k) (content : List UInt8)
    (hform : (d.volume n).form = .logged)
    (hcontent : (d.volume n).unsettled = true → content = logContent) :
    Follows n place k d (d.volume n).current (d.putEntry (logOf place) (.file content)) := by
  have hlog : (d.files.put (logOf place) (.file content)).at? (logOf place) = some (.file content) :=
    Files.at?_put _ _ _ logOf_isAbove
  refine h.withFiles ?_ ?_ (.inr ⟨content, hlog⟩) ?_ (fun hne => absurd hform hne) ?_
    (fun _ => ⟨content, hlog⟩) ?_
  · rw [Files.at?_put_of_ne _ _ _ _ h.log_ne.symm]
    exact h.file
  · rw [Files.at?_put_of_ne _ _ _ _ journalOf_ne_logOf]
    exact h.journal
  · rw [Files.at?_put_of_ne _ _ _ _ indexOf_ne_logOf]
    exact h.index
  · intro hunsettled
    rw [hlog, hcontent hunsettled]
  · exact fun p hp => Files.at?_put_of_ne _ _ _ _ (not_mem_ownPlaces hp).2.2.1

/-- A log that nobody has open may be taken away once it holds no writes. -/
theorem Houses.dropLog (h : d.Houses n place k) (hsettled : (d.volume n).unsettled = false)
    (hclosed : d.isLogOpen n = false) :
    Follows n place k d (d.volume n).current (d.dropEntry (logOf place)) := by
  have hlog : (d.files.drop (logOf place)).at? (logOf place) = none := Files.at?_drop logOf_isAbove
  refine h.withFiles ?_ ?_ (.inl hlog) ?_ (fun _ => hlog) ?_ ?_ ?_
  · rw [Files.at?_drop_of_ne h.log_ne.symm]
    exact h.file
  · rw [Files.at?_drop_of_ne journalOf_ne_logOf]
    exact h.journal
  · rw [Files.at?_drop_of_ne indexOf_ne_logOf]
    exact h.index
  · intro hunsettled
    rw [hsettled] at hunsettled
    exact absurd hunsettled (by simp)
  · intro hopen
    rw [hclosed] at hopen
    exact absurd hopen (by simp)
  · exact fun p hp => Files.at?_drop_of_ne (not_mem_ownPlaces hp).2.2.1

/-- The index may be anything but a directory. -/
theorem Houses.withIndex (h : d.Houses n place k) (files : Files)
    (hothers : ∀ p, p ≠ indexOf place → files.at? p = d.files.at? p)
    (hindex : files.at? (indexOf place) ≠ some .directory) :
    Follows n place k d (d.volume n).current { d with files } := by
  have hlog := hothers (logOf place) indexOf_ne_logOf.symm
  refine h.withFiles ?_ ?_ ?_ hindex ?_ ?_ ?_ ?_
  · rw [hothers place h.index_ne.symm]
    exact h.file
  · rw [hothers _ journalOf_ne_indexOf]
    exact h.journal
  · rw [hlog]
    exact h.log
  · rw [hlog]
    exact fun hne => (h.unlogged hne).1
  · rw [hlog]
    exact h.unsettled
  · rw [hlog]
    exact h.hasLog
  · exact fun p hp => hothers p (not_mem_ownPlaces hp).2.2.2

/-! ## Opening the log -/

theorem content?_of_none {p : Place} (h : d.files.at? p = none) : d.content? p = none := by
  rw [content?, h]

theorem isDirectory_of_none {p : Place} (h : d.files.at? p = none) : d.isDirectory p = false := by
  rw [isDirectory, h]
  rfl

theorem HasLog.content (h : d.HasLog place) : (d.content? (logOf place)).isSome = true := by
  obtain ⟨content, hcontent⟩ := h
  rw [content?, hcontent]
  rfl

theorem Houses.log_file (h : d.Houses n place k) : d.isDirectory (logOf place) = false := by
  rcases h.log with hnone | ⟨content, hcontent⟩
  · exact isDirectory_of_none hnone
  · rw [isDirectory, hcontent]
    rfl

theorem Houses.index_file (h : d.Houses n place k) : d.isDirectory (indexOf place) = false :=
  decide_eq_false h.index

theorem HasLog.of_isSome (h : d.Houses n place k)
    (hsome : (d.content? (logOf place)).isSome = true) : d.HasLog place := by
  refine h.log.resolve_left fun hnone => ?_
  rw [content?_of_none hnone] at hsome
  exact absurd hsome (by simp)

/-- A log is made if there is none. -/
theorem Houses.makeLog (h : d.Houses n place k) (hform : (d.volume n).form = .logged)
    (hd' : d' = if (d.content? (logOf place)).isSome then d else d.putEntry (logOf place) (.file [])) :
    Follows n place k d (d.volume n).current d' ∧ d'.HasLog place ∧ d'.gates = d.gates := by
  by_cases hsome : (d.content? (logOf place)).isSome = true
  · rw [if_pos hsome] at hd'
    subst hd'
    exact ⟨h.refl, .of_isSome h hsome, rfl⟩
  · rw [if_neg hsome] at hd'
    subst hd'
    -- Without a log there are no writes that are only in it.
    refine ⟨h.putLog [] hform fun hunsettled => ?_, ⟨[], Files.at?_put _ _ _ logOf_isAbove⟩, rfl⟩
    exact absurd (HasLog.content ⟨_, h.unsettled hunsettled⟩) hsome

/-- The index of the log is made. -/
theorem Houses.makeIndex (h : d.Houses n place k) :
    Follows n place k d (d.volume n).current (d.makeIndex n place) ∧
      (d.HasLog place → (d.makeIndex n place).HasLog place) ∧
      (d.makeIndex n place).gates = d.gates := by
  have hset := h.setVolume (v := { d.volume n with indexFile := ! (d.volume n).exclusive }) h.home
    h.form id (fun hne => (h.unlogged hne).2) h.unsettled
  unfold Disk.makeIndex
  simp only
  split
  · exact ⟨hset, id, rfl⟩
  · have hput := hset.houses.withIndex (d.files.put (indexOf place) (.file indexContent))
      (fun p hp => Files.at?_put_of_ne _ _ _ _ hp)
      (by rw [Files.at?_put _ _ _ indexOf_isAbove]; simp)
    rw [hset.current] at hput
    refine ⟨hset.trans hput, fun ⟨content, hcontent⟩ => ⟨content, ?_⟩, rfl⟩
    show (d.files.put _ _).at? _ = _
    rw [Files.at?_put_of_ne _ _ _ _ indexOf_ne_logOf.symm]
    exact hcontent

/-- **Opening the log loses nothing**, and leaves it open. -/
theorem Houses.openLog (h : d.Houses n place k) {writes : Bool} (hg : d.Admits n g writes)
    (hform : (d.volume n).form = .logged) :
    Follows n place k d (d.volume n).current (d.openLog g place) ∧
      (d.openLog g place).gates = d.gates.set g { d.gate g with log := .opened } := by
  obtain ⟨hfound, hvolume, hwritable⟩ := hg.gate
  have hkeeps : ¬ ((d.volume (d.gate g).volume).unsettled = true ∧
      d.files.at? (logOf place) ≠ some (.file logContent) ∧ ¬ d.isLogOpen (d.gate g).volume = true) := by
    rw [hvolume]
    exact fun hlost => hlost.2.1 (h.unsettled hlost.1)
  have hunfold : d.openLog g place =
      let d₁ := if (d.content? (logOf place)).isSome then d else d.putEntry (logOf place) (.file [])
      let d₂ := if d.isLogOpen n then d₁ else d₁.makeIndex n place
      d₂.setGate g { d.gate g with
        log := if (d₂.volume n).indexFile && d₂.isDirectory (indexOf place) then .readOnly
          else .opened } := by
    unfold Disk.openLog
    simp only
    rw [if_neg hkeeps, hvolume]
  rw [hunfold]
  simp only
  generalize hd₁ : (if (d.content? (logOf place)).isSome then d
    else d.putEntry (logOf place) (.file [])) = d₁
  obtain ⟨h₁, hlog₁, hgates₁⟩ := h.makeLog hform hd₁.symm
  generalize hd₂ : (if d.isLogOpen n then d₁ else d₁.makeIndex n place) = d₂
  have h₂ : Follows n place k d (d.volume n).current d₂ ∧ d₂.HasLog place ∧ d₂.gates = d.gates := by
    rw [← hd₂]
    split
    · exact ⟨h₁, hlog₁, hgates₁⟩
    · obtain ⟨hindex, hlog₂, hgates₂⟩ := h₁.houses.makeIndex
      rw [h₁.current] at hindex
      exact ⟨h₁.trans hindex, hlog₂ hlog₁, hgates₂.trans hgates₁⟩
  obtain ⟨h₂, hlog₂, hgates₂⟩ := h₂
  rw [h₂.houses.index_file, Bool.and_false, if_neg (by simp)]
  have hgate : d₂.gate g = d.gate g := by rw [Disk.gate, Disk.gate, hgates₂]
  have hset := h₂.houses.setGate g { d.gate g with log := .opened }
    (by rw [hgate]) (by rw [hgate])
    (fun _ => ⟨(h.sturdy hg).keeping, .inr ⟨rfl, by rw [hvolume]; exact h₂.logged hform, hlog₂⟩⟩)
    (h.keys (d.gate g) (List.mem_of_getElem? hfound))
  rw [h₂.current] at hset
  refine ⟨h₂.trans hset, ?_⟩
  rw [Disk.setGate, hgates₂]

/-! ## Being let through -/

/-- What looking at the files comes to: a log that ought to be there is opened. -/
theorem Houses.look (h : d.Houses n place k) {writes : Bool} (hg : d.Admits n g writes) :
    d.look g place =
      (.ok (), if (d.volume n).form = .logged then d.openLog g place else d) := by
  obtain ⟨hfound, hvolume, hwritable⟩ := hg.gate
  obtain ⟨content, hfile⟩ := h.file
  have hcheckFile : d.checkFile n place = .ok d := by
    rw [checkFile, hfile]
    simp
  have hcheckJournal : d.checkJournal (d.gate g) place = .ok d := by
    simp [checkJournal, isDirectory_of_none h.journal, content?_of_none h.journal]
  have hcheckLog : d.checkLog g place =
      .ok (if (d.volume n).form = .logged then d.openLog g place else d) := by
    unfold checkLog
    simp only [hvolume]
    by_cases hform : (d.volume n).form = .logged
    · have hdirect : ¬ ((d.gate g).keeping = .direct ∨ d.isDirectory (logOf place) = true) := by
        rw [(h.sturdy hg).keeping, h.log_file]
        have hk := (h.form.resolve_left (by rw [hform]; simp)).1 hform
        simp [hk]
      rw [if_neg (by rw [hform]; simp), if_neg (by simp [hform]), if_neg hdirect, if_pos hform]
    · -- Without a log there is nothing to open.
      have hnone := (h.unlogged hform).1
      have habsent : d.isPresent (logOf place) = false := by
        simp [isPresent, isDirectory_of_none hnone, content?_of_none hnone]
      rw [if_neg hform, isDirectory_of_none hnone, habsent]
      simp [hform]
  have hforeign : d.isForeign n place = false := by
    rw [isForeign, hfile]
  unfold Disk.look
  simp only [hvolume, hcheckFile, hcheckJournal, hcheckLog, hforeign]
  rfl

/-- **A statement is let through, and finds the database.**  If there is a log to be opened it is
open then. -/
theorem Houses.enter (h : d.Houses n place k) {writes : Bool} (hg : d.Admits n g writes) :
    (d.enter g).1 = (d.gate g).access ∧
      Follows n place k d (d.volume n).current (d.enter g).2 ∧
      (∃ log, (d.enter g).2.gates = d.gates.set g { d.gate g with log } ∧
        ((d.volume n).form = .logged → log = .opened)) := by
  obtain ⟨hfound, hvolume, hwritable⟩ := hg.gate
  have hsame : d.gates = d.gates.set g { d.gate g with log := (d.gate g).log } := by
    obtain ⟨hlt, hgate⟩ := List.getElem?_eq_some_iff.1 hfound
    rw [← hgate, List.set_getElem_self]
  obtain ⟨hkeeping, hlog⟩ := h.sturdy hg
  have hhome : (d.volume (d.gate g).volume).place = some place := hvolume ▸ h.home
  have hjournal : d.isJournalBlocked place = false := by
    simp [isJournalBlocked, isDirectory_of_none h.journal, h.fits]
  have hlooked {looked : Disk} (hclosed : (d.gate g).log = .closed)
      (hlook : d.look g place = (.ok (), looked)) :
      d.enter g = (looked.accessTo (looked.gate g) place, looked) := by
    unfold Disk.enter
    rcases h.keeping with rfl | rfl <;> simp [hhome, hkeeping, hclosed, hlook]
  have hthrough (hopened : (d.gate g).log = .opened) :
      d.enter g = (d.accessTo (d.gate g) place, d) := by
    unfold Disk.enter
    rcases h.keeping with rfl | rfl <;> simp [hhome, hkeeping, hopened]
  rcases hlog with hclosed | ⟨hopened, -⟩
  · rw [hlooked hclosed (h.look hg)]
    by_cases hform : (d.volume n).form = .logged
    · obtain ⟨hfollows, hgates⟩ := h.openLog hg hform
      rw [if_pos hform]
      refine ⟨?_, hfollows, .opened, hgates, fun _ => rfl⟩
      simp [accessTo, gate_of_set hfound hgates, Gate.access]
    · rw [if_neg hform]
      refine ⟨?_, h.refl, (d.gate g).log, hsame, fun hf => absurd hf hform⟩
      simp [accessTo, hclosed, hjournal]
  · rw [hthrough hopened]
    refine ⟨?_, h.refl, (d.gate g).log, hsame, fun _ => hopened⟩
    simp [accessTo, hopened]

end Disk

end Meterbank
