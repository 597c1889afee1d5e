import SmarTune.Identity.ControlledList

/-!
# Controlled apps stay disjoint

A request that finds the list as it was when it checked its copy, and that gives
no app a name of another one, keeps the entries apart and all the changes
before it.  Only the first writer checks the second condition, and none checks
the first.
-/

namespace SmarTune

/-! ## Names -/

variable {name : String} {values : List String} {first second : ControlledEntry}

theorem mem_loweredNames_cons {value : String} (filled : value ≠ "") :
    name ∈ loweredNames (value :: values) ↔
      name = lowerCase value ∨ name ∈ loweredNames values := by
  simp [loweredNames, filled]

theorem mem_loweredNames_cleanFrom (seen values : List String) (name : String) :
    name ∈ loweredNames (cleanFrom seen values) ↔
      name ∉ seen ∧ ∃ value ∈ values, strip value ≠ "" ∧
        lowerCase (strip value) = name := by
  induction values generalizing seen with
  | nil => simp [cleanFrom, loweredNames]
  | cons value values ih =>
    simp only [cleanFrom]
    split
    · rename_i fresh
      rw [mem_loweredNames_cons fresh.1, ih]
      constructor
      · rintro (rfl | ⟨unseen, one, member, rest⟩)
        · exact ⟨fresh.2, value, List.mem_cons_self, fresh.1, rfl⟩
        · exact ⟨fun known => unseen (List.mem_cons_of_mem _ known), one,
            List.mem_cons_of_mem _ member, rest⟩
      · rintro ⟨unseen, one, member, filled, same⟩
        by_cases first : name = lowerCase (strip value)
        · exact .inl first
        · refine .inr ⟨?_, one, ?_, filled, same⟩
          · simp [first, unseen]
          · rcases List.mem_cons.mp member with rfl | later
            · exact absurd same.symm first
            · exact later
    · rename_i stale
      rw [ih]
      constructor
      · rintro ⟨unseen, one, member, rest⟩
        exact ⟨unseen, one, List.mem_cons_of_mem _ member, rest⟩
      · rintro ⟨unseen, one, member, filled, same⟩
        refine ⟨unseen, one, ?_, filled, same⟩
        rcases List.mem_cons.mp member with rfl | later
        · exact absurd ⟨filled, by rw [same]; exact unseen⟩ stale
        · exact later

/-- The cleaned names are the stripped ones that are not blank. -/
theorem mem_loweredNames_cleanNames :
    name ∈ loweredNames (cleanNames values) ↔
      ∃ value ∈ values, strip value ≠ "" ∧ lowerCase (strip value) = name := by
  simp [cleanNames, mem_loweredNames_cleanFrom]

/-! ## Entries apart -/

theorem ControlledEntry.Apart.symm
    (apart : first.Apart second) : second.Apart first where
  id := apart.id.symm
  name := apart.name.symm
  bpfName := fun name member other => apart.bpfName name other member
  processNames := fun name member other =>
    apart.processNames name other member

/-- What the check lets pass is apart. -/
theorem apart_of_no_conflict {entry item : ControlledEntry}
    (free : entry.conflicts item = false) : item.Apart entry := by
  unfold ControlledEntry.conflicts at free
  simp only [Bool.or_eq_false_iff, decide_eq_false_iff_not,
    List.any_eq_false, List.contains_iff_mem] at free
  obtain ⟨⟨⟨id, name⟩, bpfName⟩, processNames⟩ := free
  constructor
  · exact id
  · exact name
  · exact fun name member other => bpfName name other member
  · exact fun name member other => processNames name other member

theorem apart_of_mem {apps : List ControlledEntry}
    (disjoint : apps.Pairwise ControlledEntry.Apart) (left : first ∈ apps)
    (right : second ∈ apps)
    (ids : first.id ≠ second.id) : first.Apart second := by
  induction disjoint with
  | nil => cases left
  | cons apart disjoint ih =>
    rcases List.mem_cons.mp left with rfl | later
    · rcases List.mem_cons.mp right with rfl | among
      · exact absurd rfl ids
      · exact apart second among
    · rcases List.mem_cons.mp right with rfl | among
      · exact (apart first later).symm
      · exact ih later among

/-! ## The first entry with an id -/

section UpdateFirst

variable {id : String} {change : ControlledEntry → ControlledEntry}

variable {apps : List ControlledEntry} {entry : ControlledEntry}

theorem mem_updateFirst (member : entry ∈ updateFirst id change apps) :
    entry ∈ apps ∨ ∃ old ∈ apps, old.id = id ∧ entry = change old := by
  induction apps with
  | nil => cases member
  | cons first apps ih =>
    unfold updateFirst at member
    split at member
    · rename_i own
      rcases List.mem_cons.mp member with rfl | later
      · exact .inr ⟨first, List.mem_cons_self, own, rfl⟩
      · exact .inl (List.mem_cons_of_mem _ later)
    · rcases List.mem_cons.mp member with rfl | later
      · exact .inl List.mem_cons_self
      · rcases ih later with old | ⟨old, listed, rest⟩
        · exact .inl (List.mem_cons_of_mem _ old)
        · exact .inr ⟨old, List.mem_cons_of_mem _ listed, rest⟩

theorem mem_updateFirst_of_ne (member : entry ∈ apps)
    (other : entry.id ≠ id) : entry ∈ updateFirst id change apps := by
  induction apps with
  | nil => cases member
  | cons first apps ih =>
    unfold updateFirst
    rcases List.mem_cons.mp member with rfl | later
    · rw [if_neg other]
      exact List.mem_cons_self
    · split
      · exact List.mem_cons_of_mem _ later
      · exact List.mem_cons_of_mem _ (ih later)

theorem exists_changed (known : listed apps id = true) :
    ∃ old ∈ apps, old.id = id ∧ change old ∈ updateFirst id change apps := by
  induction apps with
  | nil => cases known
  | cons first apps ih =>
    by_cases own : first.id = id
    · refine ⟨first, List.mem_cons_self, own, ?_⟩
      simp [updateFirst, own]
    · have later : listed apps id = true := by
        simpa [listed, own] using known
      obtain ⟨old, member, same, changed⟩ := ih later
      refine ⟨old, List.mem_cons_of_mem _ member, same, ?_⟩
      simp [updateFirst, own, changed]

theorem updateFirst_updateFirst {earlier : ControlledEntry → ControlledEntry}
    (keeps : ∀ entry, (earlier entry).id = entry.id)
    (apps : List ControlledEntry) :
    updateFirst id change (updateFirst id earlier apps) =
      updateFirst id (fun entry => change (earlier entry)) apps := by
  induction apps with
  | nil => rfl
  | cons first apps ih =>
    by_cases own : first.id = id
    · simp [updateFirst, own, keeps]
    · simp [updateFirst, own, ih]

theorem listed_updateFirst (keeps : ∀ entry, (change entry).id = entry.id)
    (apps : List ControlledEntry) (asked : String) :
    listed (updateFirst id change apps) asked = listed apps asked := by
  induction apps with
  | nil => rfl
  | cons first apps ih =>
    unfold listed at ih ⊢
    by_cases own : first.id = id
    · simp [updateFirst, own, keeps]
    · simp [updateFirst, own, ih]

theorem pairwise_updateFirst {apps : List ControlledEntry}
    (disjoint : apps.Pairwise ControlledEntry.Apart)
    (apart : ∀ entry ∈ apps, entry.id = id → ∀ other ∈ apps,
      other.id ≠ id → (change entry).Apart other) :
    (updateFirst id change apps).Pairwise ControlledEntry.Apart := by
  induction disjoint with
  | nil => exact List.Pairwise.nil
  | @cons first apps before disjoint ih =>
    unfold updateFirst
    split
    · rename_i own
      refine List.Pairwise.cons (fun other member => ?_) disjoint
      have ids : other.id ≠ id := own ▸ (before other member).id.symm
      exact apart first List.mem_cons_self own other
        (List.mem_cons_of_mem _ member) ids
    · rename_i differs
      refine List.Pairwise.cons (fun other member => ?_)
        (ih fun entry listed same other member =>
          apart entry (List.mem_cons_of_mem _ listed) same other
            (List.mem_cons_of_mem _ member))
      rcases mem_updateFirst member with old | ⟨old, listed, same, rfl⟩
      · exact before other old
      · exact (apart old (List.mem_cons_of_mem _ listed) same first
          List.mem_cons_self differs).symm

end UpdateFirst

/-! ## What a request does to the list -/

namespace IdentityRequest

variable {request : IdentityRequest} {apps : List ControlledEntry}

theorem doneIn_effect (accepted : request.accepts apps = true) :
    request.DoneIn (request.effect apps) := by
  unfold accepts at accepted
  have passed := (Bool.and_eq_true_iff.mp accepted).2
  cases request with
  | create name id commandline bpfName processNames =>
    exact List.mem_append_right _ List.mem_cons_self
  | merge id processNames bpfName =>
    obtain ⟨old, _, same, changed⟩ := exists_changed passed
    refine ⟨mergedEntry processNames bpfName old, changed, same, ?_, ?_⟩
    · intro name asked filled
      exact mem_loweredNames_cleanNames.mpr
        ⟨name, List.mem_append_right _ asked, filled, rfl⟩
    · intro name asked filled
      exact mem_loweredNames_cleanNames.mpr
        ⟨name, List.mem_append_right _ asked, filled, rfl⟩
  | set id processNames bpfName =>
    obtain ⟨old, _, same, changed⟩ := exists_changed
      (Bool.and_eq_true_iff.mp passed).1
    exact ⟨replacedEntry processNames bpfName old, changed, same, rfl, rfl⟩
  | purge id =>
    intro entry member
    exact of_decide_eq_true (List.mem_filter.mp member).2

theorem mem_effect_of_ne {entry : ControlledEntry} (member : entry ∈ apps)
    (other : entry.id ≠ request.appId) : entry ∈ request.effect apps := by
  cases request with
  | create name id commandline bpfName processNames =>
    exact List.mem_append_left _ member
  | merge id processNames bpfName => exact mem_updateFirst_of_ne member other
  | set id processNames bpfName => exact mem_updateFirst_of_ne member other
  | purge id => exact List.mem_filter.mpr ⟨member, decide_eq_true other⟩

theorem mem_of_mem_effect {entry : ControlledEntry}
    (member : entry ∈ request.effect apps)
    (other : entry.id ≠ request.appId) : entry ∈ apps := by
  cases request with
  | create name id commandline bpfName processNames =>
    rcases List.mem_append.mp member with old | new
    · exact old
    · rw [List.mem_singleton.mp new] at other
      exact absurd rfl other
  | merge id processNames bpfName =>
    rcases mem_updateFirst member with old | ⟨old, _, same, rfl⟩
    · exact old
    · exact absurd same other
  | set id processNames bpfName =>
    rcases mem_updateFirst member with old | ⟨old, _, same, rfl⟩
    · exact old
    · exact absurd same other
  | purge id => exact (List.mem_filter.mp member).1

theorem doneIn_effect_of_ne {other : IdentityRequest}
    (ids : other.appId ≠ request.appId)
    (done : request.DoneIn apps) : request.DoneIn (other.effect apps) := by
  cases request with
  | create name id commandline bpfName processNames =>
    exact mem_effect_of_ne done ids.symm
  | merge id processNames bpfName =>
    obtain ⟨entry, member, same, rest⟩ := done
    exact ⟨entry, mem_effect_of_ne member (same ▸ ids.symm), same, rest⟩
  | set id processNames bpfName =>
    obtain ⟨entry, member, same, rest⟩ := done
    exact ⟨entry, mem_effect_of_ne member (same ▸ ids.symm), same, rest⟩
  | purge id =>
    intro entry member same
    exact done entry (mem_of_mem_effect member (same ▸ ids.symm)) same

/-! ## A writer that keeps the entries apart -/

section Writer

variable {copy : List ControlledEntry}

theorem written_eq_effect
    (keeps : ControlledList.WriterKeepsApart copy apps request) :
    request.written copy apps = request.effect apps := by
  cases request with
  | create name id commandline bpfName processNames => rfl
  | merge id processNames bpfName =>
    show (merge id processNames bpfName).effect copy = _
    rw [keeps.1]
  | set id processNames bpfName =>
    have masked : ∀ listed : List ControlledEntry,
        updateFirst (strip id) (replacedEntry processNames bpfName)
            (updateFirst (strip id) (replacedEntry [] []) listed) =
          updateFirst (strip id) (replacedEntry processNames bpfName)
            listed := by
      intro listed
      exact updateFirst_updateFirst (replacedEntry_id [] []) listed
    show updateFirst (strip id) (replacedEntry processNames bpfName) copy =
      updateFirst (strip id) (replacedEntry processNames bpfName) apps
    rw [← masked copy, keeps.1, masked apps]
  | purge id => rfl

theorem accepts_of_keepsApart
    (keeps : ControlledList.WriterKeepsApart copy apps request)
    (accepted : request.accepts copy = true)
    (changes : request.written copy apps ≠ apps) :
    request.accepts apps = true := by
  unfold accepts at accepted ⊢
  obtain ⟨named, passed⟩ := Bool.and_eq_true_iff.mp accepted
  refine Bool.and_eq_true_iff.mpr ⟨named, ?_⟩
  cases request with
  | create name id commandline bpfName processNames =>
    obtain ⟨filled, free⟩ := Bool.and_eq_true_iff.mp passed
    refine Bool.and_eq_true_iff.mpr ⟨filled, ?_⟩
    simp only [Bool.not_eq_true', List.any_eq_false] at free ⊢
    intro other member
    rcases keeps other member with copied | apart
    · exact free other copied
    · exact Bool.not_eq_true _ ▸ apart
  | merge id processNames bpfName => exact keeps.1 ▸ passed
  | set id processNames bpfName =>
    obtain ⟨known, filled⟩ := Bool.and_eq_true_iff.mp passed
    refine Bool.and_eq_true_iff.mpr ⟨?_, filled⟩
    have masked : ∀ apps : List ControlledEntry,
        listed (updateFirst (strip id) (replacedEntry [] []) apps)
          (strip id) = listed apps (strip id) := by
      intro apps
      exact listed_updateFirst (replacedEntry_id [] []) apps (strip id)
    show listed apps (strip id) = true
    rw [← masked apps, ← keeps.1, masked copy]
    exact known
  | purge id =>
    by_contra absent
    apply changes
    refine List.filter_eq_self.mpr fun entry member => ?_
    refine decide_eq_true fun same => absent ?_
    exact List.any_eq_true.mpr ⟨entry, member, decide_eq_true same⟩

theorem pairwise_effect (disjoint : apps.Pairwise ControlledEntry.Apart)
    (keeps : ControlledList.WriterKeepsApart copy apps request)
    (accepted : request.accepts apps = true) :
    (request.effect apps).Pairwise ControlledEntry.Apart := by
  unfold accepts at accepted
  have passed := (Bool.and_eq_true_iff.mp accepted).2
  cases request with
  | create name id commandline bpfName processNames =>
    have free := (Bool.and_eq_true_iff.mp passed).2
    simp only [Bool.not_eq_true', List.any_eq_false] at free
    refine List.pairwise_append.mpr ⟨disjoint, List.pairwise_singleton _ _, ?_⟩
    intro other member new among
    rw [List.mem_singleton.mp among]
    exact apart_of_no_conflict (Bool.not_eq_true _ ▸ free other member)
  | merge id processNames bpfName =>
    refine pairwise_updateFirst disjoint ?_
    intro entry member own other among ids
    have before := apart_of_mem disjoint member among (own ▸ ids.symm)
    obtain ⟨processes, comms⟩ := keeps.2 entry member own other among ids
    constructor
    · exact before.id
    · exact before.name
    · intro name merged
      obtain ⟨value, given, filled, rfl⟩ :=
        mem_loweredNames_cleanNames.mp merged
      exact comms value given filled
    · intro name merged
      obtain ⟨value, given, filled, rfl⟩ :=
        mem_loweredNames_cleanNames.mp merged
      exact processes value given filled
  | set id processNames bpfName =>
    refine pairwise_updateFirst disjoint ?_
    intro entry member own other among ids
    have before := apart_of_mem disjoint member among (own ▸ ids.symm)
    obtain ⟨processes, comms⟩ := keeps.2 other among ids
    constructor
    · exact before.id
    · exact before.name
    · intro name cleaned
      obtain ⟨value, given, filled, rfl⟩ :=
        mem_loweredNames_cleanNames.mp cleaned
      exact comms value given filled
    · intro name cleaned
      obtain ⟨value, given, filled, rfl⟩ :=
        mem_loweredNames_cleanNames.mp cleaned
      exact processes value given filled
  | purge id => exact disjoint.filter _

end Writer
end IdentityRequest

namespace ControlledList

variable {Client : Type} [DecidableEq Client]
  {start : List ControlledEntry} {system : ControlledList Client}

/-! ## Runs -/

omit [DecidableEq Client] in
theorem IdentitiesKept.write {request : IdentityRequest}
    {copy : List ControlledEntry} (kept : IdentitiesKept start system)
    (keeps : WriterKeepsApart copy system.apps request)
    (accepted : request.accepts system.apps = true)
    (pending : Client → Option (IdentityRequest × List ControlledEntry)) :
    IdentitiesKept start
      ⟨request.effect system.apps, request :: system.accepted, pending⟩ := by
  constructor
  · exact request.pairwise_effect kept.disjoint keeps accepted
  · exact congrArg request.effect kept.replayed
  · intro later one earlier split others
    cases later with
    | nil =>
      obtain ⟨rfl, rfl⟩ := List.cons.inj split
      exact IdentityRequest.doneIn_effect accepted
    | cons last later =>
      obtain ⟨rfl, before⟩ := List.cons.inj split
      have done := kept.present later one earlier before fun other member =>
        others other (List.mem_cons_of_mem _ member)
      exact IdentityRequest.doneIn_effect_of_ne
        (others request List.mem_cons_self) done

theorem identitiesKept_step (kept : IdentitiesKept start system)
    (label : ListStep Client) (keeps : KeepsApart system label) :
    IdentitiesKept start (system.step label) := by
  cases label with
  | read client request => exact ⟨kept.disjoint, kept.replayed, kept.present⟩
  | finish client refused =>
    simp only [step]
    cases held : system.pending client with
    | none => exact kept
    | some pair =>
      obtain ⟨request, copy⟩ := pair
      dsimp only
      split
      · rename_i goes
        have writes := keeps (request, copy) held goes
        simp only [goesOn, Bool.and_eq_true, decide_eq_true_eq] at goes
        rw [request.written_eq_effect writes]
        exact kept.write writes
          (request.accepts_of_keepsApart writes goes.1.2 goes.2) _
      · exact ⟨kept.disjoint, kept.replayed, kept.present⟩

/-- Two apps. -/
def twoControlled : List ControlledEntry :=
  [⟨"Editor", "editor", "/usr/bin/code", ["code"], ["code", "electron"]⟩,
    ⟨"Player", "player", "/usr/bin/vlc", ["vlc"], ["vlc"]⟩]

/-- An app is created while another one is edited, and one is purged. -/
def editedWhileCreated : List (ListStep Bool) :=
  [.read true (.create "Blender" " blender " "" ["blender"] ["blender"]),
    .read false (.merge "editor" ["Code ", "node"] []), .finish false false,
    .read false (.set "editor" ["node"] ["code"]), .finish false false,
    .finish true false, .read true (.purge "player"), .finish true false]

end ControlledList
end SmarTune
