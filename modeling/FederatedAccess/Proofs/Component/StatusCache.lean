import FederatedAccess.Proofs.Component.RequestStatus
import FederatedAccess.Proofs.Policy.Resolution

/-!
# The cache of statuses

While the open resources are gone through, the status of every pair of credentials is found at most
once and kept. The invariant (`SoundCache`) says that the kept statuses are those of checks that
were run, that these checks are all that has happened, and that nobody was checked twice. One lookup
keeps it (`statusOnce_sound`), hence the run over the credentials of one resource
(`allValid_sound`) and the run over all resources (`grantFrom_sound`).

A run over credentials ends at the first invalid one, so not all credentials get a status. Still the
kept statuses settle every resource that was looked at (`Settles`), and later lookups leave settled
what is settled.
-/

namespace FederatedAccess.Component

open Operation

/-! ## Checks that were run -/

/-- The status that is kept of a check. One that ended early tells nothing. -/
def recorded : Except HandlerError ValidationStatus → ValidationStatus
  | .ok status => status
  | .error _ => .unknown

/-- What was found by single checks that were run one after the other, and what has happened when
the last of them ends; the latest comes first. Every check reads the clocks, so none leaves the
history as it was. -/
inductive Checked (component : Component) (around : Surroundings) (timestamp : Int64)
    (start : History) : Statuses → History → Prop
  /-- Nothing was checked, and nothing has happened. -/
  | start : Checked component around timestamp start [] start
  /-- One more check was run. -/
  | next {found : Statuses} {past past' : History} (credentials : SecurityCredentials)
      {result : Except HandlerError ValidationStatus} :
      Checked component around timestamp start found past →
      (component.requestStatus (.ofList [credentials] timestamp)).run around past =
        (result, past') →
      Checked component around timestamp start ((credentials, recorded result) :: found) past'

/-- The kept statuses are those of the checks that were run, each of other credentials and of such
as are wanted. -/
structure SoundCache (component : Component) (around : Surroundings) (timestamp : Int64)
    (wanted : SecurityCredentials → Prop) (start past : History) (found : Statuses) : Prop where
  /-- The checks are all that has happened. -/
  checked : Checked component around timestamp start found past
  /-- Nobody is checked twice. -/
  nodup : (found.map Prod.fst).Nodup
  /-- Nobody else is checked. -/
  wanted : ∀ entry ∈ found, wanted entry.1

/-- What the kept statuses say about some credentials: that all are valid, or that one is not. -/
def Settles (found : Statuses) (credentials : List SecurityCredentials) : Bool → Prop
  | true => ∀ c ∈ credentials, (c, .valid) ∈ found
  | false => ∃ c ∈ credentials, ∃ status, (c, status) ∈ found ∧ status ≠ .valid

variable {component : Component} {around : Surroundings} {timestamp : Int64}
  {wanted : SecurityCredentials → Prop} {start past : History} {found found' : Statuses}
  {credentials looked : List SecurityCredentials} {c : SecurityCredentials}

namespace SoundCache

theorem empty (start : History) :
    SoundCache component around timestamp wanted start start [] where
  checked := .start
  nodup := List.nodup_nil
  wanted _ h := absurd h List.not_mem_nil

/-- Each has one status. -/
theorem status_unique (sound : SoundCache component around timestamp wanted start past found)
    {status status' : ValidationStatus} (h : (c, status) ∈ found) (h' : (c, status') ∈ found) :
    status = status' := by
  have hnodup := sound.nodup
  clear sound
  induction found with
  | nil => exact absurd h List.not_mem_nil
  | cons entry rest ih =>
    obtain ⟨hfresh, hrest⟩ := List.nodup_cons.1 hnodup
    have hother : ∀ s, (c, s) ∈ rest → entry.1 ≠ c := by
      rintro s hs rfl
      exact hfresh (List.mem_map.2 ⟨_, hs, rfl⟩)
    rcases List.mem_cons.1 h with rfl | hmem
    · rcases List.mem_cons.1 h' with hpair | hmem'
      · exact (congrArg Prod.snd hpair).symm
      · exact absurd rfl (hother _ hmem')
    · rcases List.mem_cons.1 h' with rfl | hmem'
      · exact absurd rfl (hother _ hmem)
      · exact ih hmem hmem' hrest

/-- The kept statuses never say both. -/
theorem settles_unique (sound : SoundCache component around timestamp wanted start past found)
    {valid valid' : Bool} (h : Settles found credentials valid)
    (h' : Settles found credentials valid') : valid = valid' := by
  have hnot : Settles found credentials true → ¬ Settles found credentials false := by
    rintro hall ⟨c, hc, status, hstatus, hne⟩
    exact hne (sound.status_unique hstatus (hall c hc))
  cases valid <;> cases valid'
  · rfl
  · exact absurd h (hnot h')
  · exact absurd h' (hnot h)
  · rfl

end SoundCache

/-- What is settled stays so. -/
theorem Settles.mono (hsub : found ⊆ found') {valid : Bool} (h : Settles found credentials valid) :
    Settles found' credentials valid := by
  cases valid with
  | true => exact fun c hc => hsub (h c hc)
  | false =>
    obtain ⟨c, hc, status, hstatus, hne⟩ := h
    exact ⟨c, hc, status, hsub hstatus, hne⟩

/-- The order of the credentials makes no difference. -/
theorem Settles.perm (hperm : looked.Perm credentials)
    {valid : Bool} (h : Settles found looked valid) : Settles found credentials valid := by
  cases valid with
  | true => exact fun c hc => h c (hperm.mem_iff.2 hc)
  | false =>
    obtain ⟨c, hc, hstatus⟩ := h
    exact ⟨c, hperm.mem_iff.1 hc, hstatus⟩

/-! ## One lookup -/

/-- A single check is one of the request with these credentials alone, and ends with a status. -/
theorem run_singleStatus (component : Component) (around : Surroundings) (timestamp : Int64)
    (c : SecurityCredentials) (past : History) :
    (component.singleStatus timestamp c).run around past =
      (.ok (recorded ((component.requestStatus (.ofList [c] timestamp)).run around past).1),
        ((component.requestStatus (.ofList [c] timestamp)).run around past).2) := by
  rw [singleStatus, run_withDefault]
  rcases (component.requestStatus (.ofList [c] timestamp)).run around past with ⟨_ | status, past'⟩
  · rfl
  · rfl

/-- **One lookup.** It gives the status that is kept, after a check if none was kept before. -/
theorem statusOnce_sound (sound : SoundCache component around timestamp wanted start past found)
    (hwanted : wanted c) :
    ∃ status found' past',
      (component.statusOnce timestamp found c).run around past = (.ok (status, found'), past') ∧
      SoundCache component around timestamp wanted start past' found' ∧
      found ⊆ found' ∧ (c, status) ∈ found' := by
  unfold statusOnce
  cases hlookup : found.lookup c with
  | some status =>
    obtain ⟨before, after, rfl, -⟩ := List.lookup_eq_some_iff.1 hlookup
    refine ⟨status, _, past, rfl, sound, List.Subset.refl _, ?_⟩
    exact List.mem_append_right _ List.mem_cons_self
  | none =>
    rcases hrun : (component.requestStatus (.ofList [c] timestamp)).run around past with
      ⟨result, past'⟩
    -- a check is only run when there is no entry, so that the new entry is the only one
    have hfresh : c ∉ found.map Prod.fst := by
      intro hmem
      obtain ⟨entry, hentry, rfl⟩ := List.mem_map.1 hmem
      simpa using List.lookup_eq_none_iff.1 hlookup entry hentry
    refine ⟨recorded result, (c, recorded result) :: found, past', ?_, ?_, ?_, ?_⟩
    · rw [run_bind, run_singleStatus, hrun]
      rfl
    · exact
        { checked := .next c sound.checked hrun
          nodup := List.nodup_cons.2 ⟨hfresh, sound.nodup⟩
          wanted := List.forall_mem_cons.2 ⟨hwanted, sound.wanted⟩ }
    · exact List.subset_cons_self _ _
    · exact List.mem_cons_self

/-! ## Runs -/

/-- **The credentials of one resource.** The run ends early only at a status that settles the
resource. -/
theorem allValid_sound (sound : SoundCache component around timestamp wanted start past found)
    (hwanted : ∀ c ∈ credentials, wanted c) :
    ∃ valid found' past',
      (component.allValid timestamp found credentials).run around past =
        (.ok (valid, found'), past') ∧
      SoundCache component around timestamp wanted start past' found' ∧
      found ⊆ found' ∧ Settles found' credentials valid := by
  -- what was found before the rest is looked at stays found, so a valid status is not lost
  induction credentials generalizing found past with
  | nil =>
    refine ⟨true, found, past, rfl, sound, List.Subset.refl _, ?_⟩
    intro c hc
    exact absurd hc List.not_mem_nil
  | cons c rest ih =>
    obtain ⟨hc, hrest⟩ := List.forall_mem_cons.1 hwanted
    obtain ⟨status, found₁, past₁, hrun₁, sound₁, hsub₁, hmem⟩ := statusOnce_sound sound hc
    by_cases hvalid : status.isValid = true
    · obtain ⟨valid, found₂, past₂, hrun₂, sound₂, hsub₂, hsettled⟩ := ih sound₁ hrest
      refine ⟨valid, found₂, past₂, ?_, sound₂, List.Subset.trans hsub₁ hsub₂, ?_⟩
      · rw [allValid, run_bind, hrun₁]
        simp only [hvalid, if_true]
        exact hrun₂
      · obtain rfl := ValidationStatus.isValid_iff.1 hvalid
        cases valid with
        | true => exact List.forall_mem_cons.2 ⟨hsub₂ hmem, hsettled⟩
        | false =>
          obtain ⟨d, hd, hstatus⟩ := hsettled
          exact ⟨d, List.mem_cons_of_mem _ hd, hstatus⟩
    · refine ⟨false, found₁, past₁, ?_, sound₁, hsub₁, ?_⟩
      · rw [allValid, run_bind, hrun₁]
        simp only [hvalid]
        rfl
      · exact ⟨c, List.mem_cons_self, status, hmem, mt ValidationStatus.isValid_iff.2 hvalid⟩

/-- **All resources.** At the end every resource that was looked at is settled, and the granted ones
are those of which all credentials have the status valid. -/
theorem grantFrom_sound {visited : List (String × List SecurityCredentials)}
    (sound : SoundCache component around timestamp wanted start past found)
    (hwanted : ∀ entry ∈ visited, ∀ c ∈ entry.2, wanted c) :
    ∃ granted found' past',
      (component.grantFrom timestamp found visited).run around past =
        (.ok (granted, found'), past') ∧
      SoundCache component around timestamp wanted start past' found' ∧
      found ⊆ found' ∧
      (∀ entry ∈ visited, ∃ valid, Settles found' entry.2 valid) ∧
      ∀ resource, resource ∈ granted ↔
        ∃ credentials, (resource, credentials) ∈ visited ∧ Settles found' credentials true := by
  induction visited generalizing found past with
  | nil =>
    refine ⟨[], found, past, rfl, sound, List.Subset.refl _, ?_, ?_⟩
    · intro entry hentry
      exact absurd hentry List.not_mem_nil
    · simp
  | cons entry rest ih =>
    obtain ⟨resource, credentials⟩ := entry
    obtain ⟨hfirst, hrest⟩ := List.forall_mem_cons.1 hwanted
    obtain ⟨valid, found₁, past₁, hrun₁, sound₁, hsub₁, hsettled⟩ := allValid_sound sound hfirst
    obtain ⟨granted, found₂, past₂, hrun₂, sound₂, hsub₂, hall, hgranted⟩ := ih sound₁ hrest
    refine ⟨if valid then resource :: granted else granted, found₂, past₂, ?_, sound₂,
      List.Subset.trans hsub₁ hsub₂, ?_, ?_⟩
    · rw [grantFrom, run_bind, hrun₁]
      simp only [run_bind, hrun₂]
      rfl
    · exact List.forall_mem_cons.2 ⟨⟨valid, hsettled.mono hsub₂⟩, hall⟩
    · intro name
      cases valid with
      | true =>
        rw [if_pos rfl, List.mem_cons, hgranted]
        constructor
        · rintro (rfl | ⟨cs, hmem, hcs⟩)
          · exact ⟨credentials, List.mem_cons_self, hsettled.mono hsub₂⟩
          · exact ⟨cs, List.mem_cons_of_mem _ hmem, hcs⟩
        · rintro ⟨cs, hmem, hcs⟩
          rcases List.mem_cons.1 hmem with hpair | hmem
          · exact Or.inl (congrArg Prod.fst hpair)
          · exact Or.inr ⟨cs, hmem, hcs⟩
      | false =>
        rw [if_neg (by simp), hgranted]
        constructor
        · rintro ⟨cs, hmem, hcs⟩
          exact ⟨cs, List.mem_cons_of_mem _ hmem, hcs⟩
        · rintro ⟨cs, hmem, hcs⟩
          rcases List.mem_cons.1 hmem with hpair | hmem
          · -- a denied resource cannot turn valid by what is found later
            cases hpair
            exact absurd (sound₂.settles_unique hcs (hsettled.mono hsub₂)) (by simp)
          · exact ⟨cs, hmem, hcs⟩

end FederatedAccess.Component
