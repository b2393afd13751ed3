/-
  Meterbank.Proofs.Disk.Opening — a database that is found again.

  A name that leads to a file leads there each time it is opened.  Where
  nothing is, a new database is made; where a disk houses a database, that
  one is found, as it was left.  Either way all connections of a store get
  to it, and the one that writes may write.

  Main results:
    * `Houses.openFile`, `Vacant.openFile` — one more gate.
    * `Houses.start` — the connection that writes begins the log.
    * `Stands.openDatabase` — a store is connected to the database.
-/
import Meterbank.Proofs.Disk.Writing
import Meterbank.Proofs.Sql.Addressing

namespace Meterbank

open Meterbank.Sql Meterbank.Text

namespace Disk

variable {d d' : Disk} {n g : Nat} {place : Place} {k : Keeping} {db : Database}
  {a b : Address} {name : String} {vfs : Vfs}

/-! ## One more gate -/

/-- Whether a path leads to a place, whatever lies there and beside it. -/
def Leads (d : Disk) (path : List UInt8) (place : Place) : Prop :=
  ∀ fs : Files, (∀ p ∉ ownPlaces place, fs.at? p = d.files.at? p) →
    fs.resolve [] (Name.ofPath path) = some place

theorem Leads.elsewhere {path : List UInt8} (h : d.Leads path place)
    (he : ∀ p ∉ ownPlaces place, d'.files.at? p = d.files.at? p) : d'.Leads path place :=
  fun fs hfs => h fs fun p hp => (hfs p hp).trans (he p hp)

/-- Whether somebody uses a gate to a place that may be shared. -/
def Shared (d : Disk) (vfs : Vfs) (place : Place) : Prop :=
  ∃ (i : Nat) (gate : Gate), d.gates[i]? = some gate ∧ 0 < gate.users ∧ gate.key = some (.file vfs place)

/-- Shared gates stay so if a gate is replaced that is used and shared as the old one. -/
theorem Shared.set (h : d.Shared vfs place) {gate : Gate} (hgates : d'.gates = d.gates.set g gate)
    (husers : (d.gate g).users ≤ gate.users) (hkey : gate.key = (d.gate g).key) :
    d'.Shared vfs place := by
  obtain ⟨i, old, hold, hused, hshared⟩ := h
  by_cases hi : g = i
  · subst hi
    have hsame : d.gate g = old := by rw [Disk.gate, List.getD_eq_getElem?_getD, hold]; rfl
    have hlt := (List.getElem?_eq_some_iff.1 hold).1
    rw [hsame] at husers hkey
    exact ⟨g, gate, by simp [hgates, hlt], by omega, hkey.trans hshared⟩
  · exact ⟨i, old, by rw [hgates, List.getElem?_set_ne hi]; exact hold, hused, hshared⟩

theorem keepingOf_eq (h : a.immutable = false) (v : Volume) : keepingOf a v = a.route := by
  cases hvfs : a.vfs <;> simp [keepingOf, Address.route, h, hvfs]

/-- Noting for how many programs a file is opened. -/
theorem Houses.markExclusive (h : d.Houses n place k) (exclusive : Bool) :
    Follows n place k d (d.volume n).current (d.markExclusive n exclusive) := by
  have hset (exclusive : Bool) := h.setVolume (v := { d.volume n with exclusive }) h.home h.form id
    (fun hne => (h.unlogged hne).2) h.unsettled
  exact hset (exclusive ||
    ((d.gates.any fun g => decide (0 < g.users ∧ g.volume = n)) && (d.volume n).exclusive))

/-- A further gate. -/
theorem Houses.addGate (h : d.Houses n place k) (gate : Gate) (hvolume : gate.volume = n)
    (hkeeping : gate.keeping = k) (hlog : gate.log = .closed)
    (hkeys : ∀ vfs, gate.key = some (.file vfs place) → gate.writable = true) :
    Follows n place k d (d.volume n).current (d.addGate gate).2 ∧
      (d.addGate gate).2.Admits n (d.addGate gate).1 gate.writable where
  left :=
    { houses := ⟨h.keeping, h.number, h.home, h.proper, h.fits, h.file, h.journal, h.log, h.index,
        h.form, h.unlogged, h.unsettled,
        fun other hother hother' => by
          rcases List.mem_append.1 hother with hmem | hmem
          · obtain ⟨hkeeping, hlog⟩ := h.gates other hmem hother'
            exact ⟨hkeeping, hlog⟩
          · rw [List.mem_singleton.1 hmem]
            exact ⟨hkeeping, .inl hlog⟩,
        fun other hother hused vfs hkey => by
          rcases List.mem_append.1 hother with hmem | hmem
          · exact h.keys other hmem hused vfs hkey
          · rw [List.mem_singleton.1 hmem] at hkey ⊢
            exact ⟨hvolume, hkeys vfs hkey⟩⟩
      current := rfl
      logged := id
      admits := fun ⟨old, hold, hadmits⟩ =>
        ⟨old, by
          show (d.gates ++ [gate])[_]? = some old
          rw [List.getElem?_append_left (List.getElem?_eq_some_iff.1 hold).1]
          exact hold, hadmits⟩
      elsewhere := fun _ _ => rfl }
  right := ⟨gate, by simp [Disk.addGate], hvolume, id⟩

/-- One more connection goes through a gate. -/
theorem Houses.join (h : d.Houses n place k) {vfs : Vfs} {gate : Gate}
    (hfound : d.gates[g]? = some gate) (hused : 0 < gate.users)
    (hkey : gate.key = some (.file vfs place)) :
    Follows n place k d (d.volume n).current (d.join g) ∧ (d.join g).Admits n g true := by
  have hsame : d.gate g = gate := by rw [Disk.gate, List.getD_eq_getElem?_getD, hfound]; rfl
  have hmem := List.mem_of_getElem? hfound
  obtain ⟨hvolume, hwritable⟩ := h.keys gate hmem hused vfs hkey
  obtain ⟨hkeeping, hlog⟩ := h.gates gate hmem hvolume
  have hjoin : Follows n place k d (d.volume n).current (d.join g) :=
    h.setGate _ _ rfl rfl (fun _ => hsame ▸ ⟨hkeeping, hlog⟩) fun _ => hsame ▸ h.keys gate hmem hused
  exact ⟨hjoin, hjoin.admits ⟨gate, hfound, hvolume, fun _ => hwritable⟩⟩

/-- The key under which the gate of an address is shared, if it is. -/
def keyOf (a : Address) (place : Place) : Option ShareKey :=
  if a.sharesGate then some (.file a.vfs place) else none

theorem keyOf_eq_some {key : ShareKey} (h : keyOf a place = some key) :
    a.sharesGate = true ∧ key = .file a.vfs place := by
  unfold keyOf at h
  split at h
  · next hshares => exact ⟨hshares, (Option.some.inj h).symm⟩
  · exact absurd h (by simp)

theorem sharedGate?_keyOf (h : d.sharedGate? (keyOf a place) = some g) :
    ∃ gate, d.gates[g]? = some gate ∧ 0 < gate.users ∧ gate.key = some (.file a.vfs place) := by
  unfold sharedGate? at h
  cases hkey : keyOf a place with
  | none =>
    rw [hkey] at h
    exact absurd h (by simp)
  | some key =>
    obtain ⟨-, rfl⟩ := keyOf_eq_some hkey
    rw [hkey] at h
    obtain ⟨hlt, hgate, -⟩ := List.findIdx?_eq_some_iff_getElem.1 h
    rw [decide_eq_true_eq] at hgate
    exact ⟨_, List.getElem?_eq_getElem hlt, hgate⟩

theorem sharedGate?_none (h : d.sharedGate? (keyOf a place) = none) (hshares : a.sharesGate = true) :
    ¬ d.Shared a.vfs place := by
  rintro ⟨i, gate, hgate, hshared⟩
  rw [keyOf, if_pos hshares] at h
  have hnone := List.findIdx?_eq_none_iff.1 h gate (List.mem_of_getElem? hgate)
  rw [decide_eq_false_iff_not] at hnone
  exact hnone hshared

/-- What a gate that was opened leads to. -/
structure OpenedAt (n : Nat) (place : Place) (a : Address) (d : Disk) (g : Nat) : Prop where
  houses : d.Houses n place a.route
  admits : d.Admits n g a.isWritable
  shared : a.sharesGate = true → d.Shared a.vfs place

/-- A gate of one's own to a database that is there. -/
theorem Houses.openGate (h : d.Houses n place a.route) (hlasting : a.immutable = false)
    (hshare : a.sharesGate = true → a.isWritable = true)
    (hd' : d' = ((d.markExclusive n (a.vfs = .exclusive)).addGate
      ⟨n, a.isWritable, keepingOf a ((d.markExclusive n (a.vfs = .exclusive)).volume n), .closed, 1,
        keyOf a place⟩).2) :
    Follows n place a.route d (d.volume n).current d' ∧ OpenedAt n place a d' d.gates.length ∧
      (∀ vfs, d.Shared vfs place → d'.Shared vfs place) ∧ (d'.gate d.gates.length).users = 1 := by
  have hmark := h.markExclusive (a.vfs = .exclusive)
  have hadd := hmark.houses.addGate
    ⟨n, a.isWritable, keepingOf a ((d.markExclusive n (a.vfs = .exclusive)).volume n), .closed, 1,
      keyOf a place⟩
    rfl (keepingOf_eq hlasting _) rfl (fun vfs hkey => hshare (keyOf_eq_some hkey).1)
  rw [hmark.current, ← hd'] at hadd
  have hgates : d'.gates = d.gates ++
      [⟨n, a.isWritable, keepingOf a ((d.markExclusive n (a.vfs = .exclusive)).volume n), .closed, 1,
        keyOf a place⟩] := by rw [hd']; rfl
  have hnew : d'.gates[d.gates.length]? = some ⟨n, a.isWritable,
      keepingOf a ((d.markExclusive n (a.vfs = .exclusive)).volume n), .closed, 1, keyOf a place⟩ := by
    rw [hgates, List.getElem?_concat_length]
  refine ⟨hmark.trans hadd.1, ⟨hadd.1.houses, hadd.2, fun hshares => ?_⟩, ?_, ?_⟩
  · exact ⟨_, _, hnew, Nat.one_pos, if_pos hshares⟩
  · rintro vfs ⟨i, gate, hgate, hshared⟩
    refine ⟨i, gate, ?_, hshared⟩
    rw [hgates, List.getElem?_append_left (List.getElem?_eq_some_iff.1 hgate).1]
    exact hgate
  · rw [Disk.gate, List.getD_eq_getElem?_getD, hnew]
    rfl

/-- **A database that is there is found.** -/
theorem Houses.openFile (h : d.Houses n place a.route) (hleads : d.Leads a.name place)
    (hshort : pathLength place ≤ maxDatabasePath) (hlasting : a.immutable = false)
    (hshare : a.sharesGate = true → a.isWritable = true ∨ d.Shared a.vfs place) (name : String) :
    ∃ g d', d.openFile name a = .ok (g, d') ∧ OpenedAt n place a d' g ∧
      Follows n place a.route d (d.volume n).current d' ∧
      ∀ vfs, d.Shared vfs place → d'.Shared vfs place := by
  have hresolve := hleads d.files fun _ _ => rfl
  obtain ⟨content, hfile⟩ := h.file
  unfold Disk.openFile
  rw [hresolve]
  simp only
  rw [show (if a.sharesGate then some (ShareKey.file a.vfs place) else none) = keyOf a place from rfl]
  cases hfound : d.sharedGate? (keyOf a place) with
  | some g =>
    obtain ⟨gate, hgate, hused, hkey⟩ := sharedGate?_keyOf hfound
    obtain ⟨hjoin, joined, hjoined, hvolume, hwrites⟩ := h.join hgate hused hkey
    have hshared : ∀ vfs, d.Shared vfs place → (d.join g).Shared vfs place :=
      fun vfs hvfs => hvfs.set (g := g) rfl (Nat.le_succ _) rfl
    exact ⟨g, d.join g, rfl, ⟨hjoin.houses, ⟨joined, hjoined, hvolume, fun _ => hwrites rfl⟩,
      fun _ => hshared _ ⟨g, gate, hgate, hused, hkey⟩⟩, hjoin, hshared⟩
  | none =>
    simp only
    rw [if_neg (by omega), volumeAt, hfile]
    obtain ⟨hfollows, hopened, hshared, -⟩ := h.openGate hlasting
      (fun hshares => (hshare hshares).resolve_right (sharedGate?_none hfound hshares)) rfl
    exact ⟨_, _, rfl, hopened, hfollows, hshared⟩

/-! ## The first time -/

/-- Nothing is at a place, and a database may be made there. -/
structure Vacant (d : Disk) (place : Place) : Prop where
  nothing : ∀ p ∈ ownPlaces place, d.files.at? p = none
  directory : d.isDirectory place.dropLast = true
  fits : (journalOf place).name.fits = true
  gates : ∀ gate ∈ d.gates, gate.volume < d.volumes.length
  keys : ∀ gate ∈ d.gates, 0 < gate.users → ∀ vfs, gate.key ≠ some (.file vfs place)

namespace Vacant

theorem proper (h : d.Vacant place) : place.isAbove = false := by
  have hnone := h.nothing place (by simp [ownPlaces])
  unfold Files.at? at hnone
  split at hnone
  · exact absurd hnone (by simp)
  · next habove => exact Bool.eq_false_iff.2 habove

/-- The database that is made is housed. -/
theorem houses (h : d.Vacant place) (hk : k = .direct ∨ k = .logged)
    (hd' : d' = (d.addVolume (.fresh (some place) none)).2.putEntry place
      (.database d.volumes.length [])) :
    d'.Houses d.volumes.length place k ∧ (d'.volume d.volumes.length).current = .empty ∧
      ∀ p ∉ ownPlaces place, d'.files.at? p = d.files.at? p := by
  have hvolume : d'.volume d.volumes.length = .fresh (some place) none := by
    rw [hd', volume_putEntry]
    exact addVolume_fresh d _
  have hothers : ∀ p, p ≠ place → d'.files.at? p = d.files.at? p := by
    intro p hp
    rw [hd']
    exact Files.at?_put_of_ne _ _ _ _ hp
  have hbeside : ∀ {p}, p ∈ ownPlaces place → p ≠ place → d'.files.at? p = none :=
    fun hp hne => (hothers _ hne).trans (h.nothing _ hp)
  have hlog : d'.files.at? (logOf place) = none :=
    hbeside (by simp [ownPlaces]) (Place.beside_ne_self h.proper (by decide))
  refine ⟨⟨hk, ?_, ?_, h.proper, h.fits, ⟨[], ?_⟩, ?_, .inl hlog, ?_, ?_, ?_, ?_, ?_, ?_⟩, ?_, ?_⟩
  · rw [hd']
    simp [putEntry, Disk.addVolume]
  · rw [hvolume]
    rfl
  · rw [hd']
    exact Files.at?_put _ _ _ h.proper
  · exact hbeside (by simp [ownPlaces]) (Place.beside_ne_self h.proper (by decide))
  · rw [hbeside (p := indexOf place) (by simp [ownPlaces])
      (Place.beside_ne_self h.proper (by decide))]
    simp
  · rw [hvolume]
    exact .inl rfl
  · rw [hvolume]
    exact fun _ => ⟨hlog, rfl⟩
  · rw [hvolume]
    exact fun hunsettled => absurd hunsettled (by simp [Volume.fresh])
  · intro gate hgate hn
    rw [hd'] at hgate
    have hlt := h.gates gate hgate
    omega
  · intro gate hgate hused vfs hkey
    rw [hd'] at hgate
    exact absurd hkey (h.keys gate hgate hused vfs)
  · rw [hvolume]
    rfl
  · exact fun p hp => hothers p (not_mem_ownPlaces hp).1

/-- **Where nothing is a new database is made.** -/
theorem openFile (h : d.Vacant place) (hleads : d.Leads a.name place)
    (hshort : pathLength place ≤ maxDatabasePath) (hlasting : a.immutable = false)
    (hcreates : a.mode = .file .create) (name : String) :
    ∃ n g d', d.openFile name a = .ok (g, d') ∧ OpenedAt n place a d' g ∧
      (d'.volume n).current = .empty ∧ (d'.gate g).users = 1 ∧
      ∀ p ∉ ownPlaces place, d'.files.at? p = d.files.at? p := by
  have hresolve := hleads d.files fun _ _ => rfl
  obtain ⟨hhouses, hcurrent, helsewhere⟩ := h.houses a.route_cases rfl
  have hunshared : d.sharedGate? (keyOf a place) = none := by
    cases hfound : d.sharedGate? (keyOf a place) with
    | none => rfl
    | some g =>
      obtain ⟨gate, hgate, hused, hkey⟩ := sharedGate?_keyOf hfound
      exact absurd hkey (h.keys gate (List.mem_of_getElem? hgate) hused a.vfs)
  obtain ⟨hfollows, hopened, -, husers⟩ := hhouses.openGate hlasting
    (fun _ => by rw [Address.isWritable, hcreates]; decide) rfl
  refine ⟨_, _, _, ?_, hopened, hfollows.current.trans hcurrent, husers,
    fun p hp => (hfollows.elsewhere p hp).trans (helsewhere p hp)⟩
  unfold Disk.openFile
  rw [hresolve]
  simp only
  rw [show (if a.sharesGate then some (ShareKey.file a.vfs place) else none) = keyOf a place from rfl,
    hunshared]
  simp only
  rw [if_neg (by omega), volumeAt, h.nothing place (by simp [ownPlaces])]
  simp only
  rw [if_pos ⟨hcreates, h.directory⟩]
  rfl

end Vacant

/-! ## Beginning -/

/-- A file is turned over to a log. -/
theorem Houses.beginLog (h : d.Houses n place k) (hk : k = .logged) :
    Follows n place k d (d.volume n).current (d.beginLog n) ∧
      ((d.beginLog n).volume n).form = .logged ∧ (d.beginLog n).gates = d.gates := by
  have hset := h.setVolume (v := { d.volume n with form := .logged }) h.home
    (.inr ⟨fun _ => hk, fun _ => rfl⟩) (fun _ => rfl) (fun hne => absurd rfl hne) h.unsettled
  have hengrave := hset.houses.engrave
  rw [hset.current] at hengrave
  have hform : (((d.setVolume n { d.volume n with form := .logged }).engrave n).volume n).form =
      .logged := by
    rw [volume_engrave, volume_setVolume _ _ _ h.number]
  unfold Disk.beginLog
  simp only
  split
  · next p hp =>
    rw [h.home] at hp
    obtain rfl := Option.some.inj hp
    rw [hengrave.houses.dropJournal]
    exact ⟨hset.trans hengrave, hform, gates_engrave _ _⟩
  · exact ⟨hset.trans hengrave, hform, gates_engrave _ _⟩

/-- **The first statements of the connection that writes succeed**, and leave the database in the
form it is written in. -/
theorem Houses.start (h : d.Houses n place k) (hg : d.Admits n g true)
    (hbegun : d.Begun n k ∨ (d.gate g).users ≤ 1) :
    ∃ d', d.start g = (.ok (), d') ∧ Follows n place k d (d.volume n).current d' ∧ d'.Begun n k ∧
      ∀ vfs, d.Shared vfs place → d'.Shared vfs place := by
  obtain ⟨hfound, hvolume, hwritable⟩ := hg.gate
  have hkeeping := (h.sturdy hg).keeping
  unfold Disk.start
  split
  · next hothers =>
    -- It has been begun by another connection through the gate.
    exact ⟨d, rfl, h.refl, hbegun.resolve_right (by omega), fun _ => id⟩
  · obtain ⟨haccess, hfollows, log, hgates, hlog⟩ := h.enter hg
    have hwrites : (d.gate g).access = .readWrite := by rw [Gate.access, if_pos (hwritable rfl)]
    rw [hwrites] at haccess
    have hgate := gate_of_set hfound hgates
    have hshared : ∀ vfs, d.Shared vfs place → (d.enter g).2.Shared vfs place :=
      fun vfs hvfs => hvfs.set hgates (Nat.le_refl _) rfl
    rw [show d.enter g = (.readWrite, (d.enter g).2) from Prod.ext haccess rfl]
    generalize (d.enter g).2 = d₁ at hfollows hgate hshared
    simp only [hgate, hkeeping, hvolume]
    rcases h.keeping with rfl | rfl
    · exact ⟨d₁, rfl, hfollows, fun hk => absurd hk (by simp), hshared⟩
    · have hsturdy := hfollows.houses.sturdy (hfollows.admits hg)
      rw [hgate] at hsturdy
      rcases hsturdy.log with hclosed | ⟨hopened, hform, -⟩
      · simp only at hclosed
        obtain ⟨hbegin, hform, hbegan⟩ := hfollows.houses.beginLog rfl
        rw [hfollows.current] at hbegin
        refine ⟨d₁.beginLog n, by rw [hclosed], hfollows.trans hbegin, fun _ => hform, ?_⟩
        intro vfs hvfs
        unfold Shared
        rw [hbegan]
        exact hshared vfs hvfs
      · simp only at hopened hform
        rw [hvolume] at hform
        exact ⟨d₁, by rw [hopened], hfollows, fun _ => hform, hshared⟩

/-! ## Stores -/

theorem openName_writer (hname : Address.OfFile name a b) (d : Disk) :
    d.openName .create name = d.openFile name a := by
  unfold openName
  rw [hname.noNul, hname.writer]
  simp [hname.inFile, hname.vfs]

theorem openName_reader (hname : Address.OfFile name a b) (d : Disk) :
    d.openName .read name = d.openFile name b := by
  unfold openName
  rw [hname.noNul, hname.reader]
  simp [hname.inFile_reader, hname.kin.vfs, hname.vfs]

/-- The connections that read get to the database, too. -/
theorem Houses.openReaders (hname : Address.OfFile name a b) (readers : Nat)
    (h : d.Houses n place a.route) (hleads : d.Leads a.name place)
    (hshort : pathLength place ≤ maxDatabasePath)
    (hshared : a.sharesGate = true → d.Shared a.vfs place) :
    ∃ gs d', Disk.openReaders name readers d = (.ok gs, d') ∧
      Follows n place a.route d (d.volume n).current d' ∧ ∀ g ∈ gs, d'.Admits n g false := by
  induction readers generalizing d with
  | zero => exact ⟨[], d, rfl, h.refl, fun g hg => absurd hg (by simp)⟩
  | succ readers ih =>
    have hkin := hname.kin
    have hb : d.Houses n place b.route := hkin.route ▸ h
    obtain ⟨g, d₁, hopen, hopened, hfollows, hstill⟩ := hb.openFile (hkin.name ▸ hleads) hshort
      (hkin.immutable.trans hname.lasting)
      (fun hshares => .inr (by rw [hkin.vfs]; exact hshared (hkin.sharesGate ▸ hshares))) name
    rw [hkin.route] at hfollows
    obtain ⟨gs, d₂, hrest, hfollows', hadmits⟩ := ih hfollows.houses
      (hleads.elsewhere hfollows.elsewhere) fun hshares => hstill _ (hshared hshares)
    rw [hfollows.current] at hfollows'
    refine ⟨g :: gs, d₂, ?_, hfollows.trans hfollows', ?_⟩
    · unfold Disk.openReaders
      rw [openName_reader hname, hopen]
      simp only [hrest]
    · rw [List.forall_mem_cons]
      obtain ⟨gate, hgate, hvolume, -⟩ := hfollows'.admits hopened.admits
      exact ⟨⟨gate, hgate, hvolume, fun hf => absurd hf (by simp)⟩, hadmits⟩

/-- A database stands at a place: it is housed there, or it would be a new one. -/
def Stands (d : Disk) (place : Place) (k : Keeping) (db : Database) : Prop :=
  (∃ n, d.Houses n place k ∧ d.Begun n k ∧ (d.volume n).current = db) ∨
    d.Vacant place ∧ db = .empty

/-- A store is connected to a database by its gates. -/
structure Connected (n : Nat) (place : Place) (k : Keeping) (gates : Gates) (d : Disk)
    (db : Database) : Prop where
  houses : d.Houses n place k
  begun : d.Begun n k
  current : (d.volume n).current = db
  admits : d.AdmitsAll n gates

theorem Connected.stands {gates : Gates} (h : Connected n place k gates d db) :
    d.Stands place k db := .inl ⟨n, h.houses, h.begun, h.current⟩

/-- What follows a disk that a store is connected to. -/
theorem Connected.follow {gates : Gates} {db' : Database} (h : Connected n place k gates d db)
    (hfollows : Follows n place k d db' d') : Connected n place k gates d' db' :=
  ⟨hfollows.houses, hfollows.begun h.begun, hfollows.current, hfollows.admitsAll h.admits⟩

/-- The connection that writes gets to the database. -/
theorem Stands.openWriter (h : d.Stands place a.route db) (hname : Address.OfFile name a b)
    (hleads : d.Leads a.name place) (hshort : pathLength place ≤ maxDatabasePath) :
    ∃ n g d', d.openName .create name = .ok (g, d') ∧ OpenedAt n place a d' g ∧
      (d'.volume n).current = db ∧ (d'.Begun n a.route ∨ (d'.gate g).users ≤ 1) ∧
      ∀ p ∉ ownPlaces place, d'.files.at? p = d.files.at? p := by
  rw [openName_writer hname]
  rcases h with ⟨n, hhouses, hbegun, hcurrent⟩ | ⟨hvacant, rfl⟩
  · obtain ⟨g, d', hopen, hopened, hfollows, -⟩ :=
      hhouses.openFile hleads hshort hname.lasting (fun _ => .inl hname.isWritable) name
    exact ⟨n, g, d', hopen, hopened, hfollows.current.trans hcurrent, .inl (hfollows.begun hbegun),
      hfollows.elsewhere⟩
  · obtain ⟨n, g, d', hopen, hopened, hcurrent, husers, helsewhere⟩ :=
      hvacant.openFile hleads hshort hname.lasting hname.creates name
    exact ⟨n, g, d', hopen, hopened, hcurrent, .inr (Nat.le_of_eq husers), helsewhere⟩

/-- **A store is connected to the database that stands at a place**, each time it is opened. -/
theorem Stands.openDatabase (h : d.Stands place a.route db) (hname : Address.OfFile name a b)
    (hleads : d.Leads a.name place) (hshort : pathLength place ≤ maxDatabasePath) (readers : Nat) :
    ∃ n gates d', d.openDatabase name readers = (.ok (.toFile name readers, gates), d') ∧
      Connected n place a.route gates d' db ∧
      ∀ p ∉ ownPlaces place, d'.files.at? p = d.files.at? p := by
  obtain ⟨n, g, d₁, hopen, hopened, hcurrent, hbegun, helsewhere⟩ := h.openWriter hname hleads hshort
  have hwrites : d₁.Admits n g true := hname.isWritable ▸ hopened.admits
  obtain ⟨d₂, hstart, hfollows₂, hbegun₂, hshared₂⟩ := hopened.houses.start hwrites hbegun
  rw [hcurrent] at hfollows₂
  obtain ⟨gs, d₃, hreaders, hfollows₃, hadmits⟩ := hfollows₂.houses.openReaders hname readers
    (hleads.elsewhere fun p hp => (hfollows₂.elsewhere p hp).trans (helsewhere p hp)) hshort
    fun hshares => hshared₂ _ (hopened.shared hshares)
  rw [hfollows₂.current] at hfollows₃
  refine ⟨n, ⟨g, gs⟩, d₃, ?_, ⟨hfollows₃.houses, hfollows₃.begun hbegun₂, hfollows₃.current,
    hfollows₃.admits (hfollows₂.admits hwrites), hadmits⟩, fun p hp =>
    (hfollows₃.elsewhere p hp).trans ((hfollows₂.elsewhere p hp).trans (helsewhere p hp))⟩
  unfold Disk.openDatabase connectFile connect
  rw [if_neg hname.ne_memoryName, hopen]
  simp only [hstart, hreaders]

end Disk

end Meterbank
