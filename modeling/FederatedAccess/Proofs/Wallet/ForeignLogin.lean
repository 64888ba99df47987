import FederatedAccess.Proofs.Component.Course
import FederatedAccess.Proofs.Wallet.Provenance

/-!
# Logins that fail

A login or a renewed login puts something into the wallet as its last step, so one that fails has
put in nothing. A login at foreign AAMs puts in one token after the other. What it does is told by a
relation (`Handler.Collects`), with a case for each AAM of the list: its token is held already, it
answers, or it refuses and ends the whole. Every run follows it (`foreignTokens_collects`), and
the rest is by induction on the relation. Tokens that are held stay, so whatever was collected
before a refusal is held when the same is tried again, and the AAMs up to there are passed over
(`Collects.of_held`).
-/

namespace FederatedAccess

/-- What a client shows to the AAMs that it asks for foreign tokens. -/
structure Visitor where
  homeToken : Token
  /-- The client's own certificate. -/
  certificate : Certificate
  /-- The certificate of its home AAM. -/
  aamCertificate : Certificate

@[reducible] def Visitor.asks (visitor : Visitor) (aam : Aam) : Call :=
  .foreignToken aam.address visitor.homeToken visitor.certificate visitor.aamCertificate

@[reducible] def BoundCredentials.visitor (bound : BoundCredentials) (homeToken : Token) :
    Visitor where
  homeToken := homeToken
  certificate := bound.home.certificate
  aamCertificate := bound.aam.certificate

namespace Handler

open Exchange WalletExchange Operation

variable {around : Surroundings} {s : Session}

/-! ## Logins at home -/

theorem wallet_login_of_error {aam : Aam} {username clientId : String} {key : Ed25519.SecretKey}
    {certificate : Certificate} {e : HandlerError}
    (h : ((login aam username clientId key certificate).run around s).1 = .error e) :
    ((login aam username clientId key certificate).run around s).2.wallet = s.wallet := by
  let home : HomeCredentials := { homeAam := aam, username, clientId, certificate, key }
  obtain ⟨request, hrequest⟩ := home.exists_login around s.past
  have hrun := run_login s hrequest
  change (login aam username clientId key certificate).run around s = _ at hrun
  rw [hrun] at h ⊢
  cases hanswer : around.answer s.calls (.homeToken home.homeAam.address request) with
  | ok token =>
    rw [hanswer] at h
    cases h
  | error cause => rfl

theorem wallet_relogin_of_error {aamId : String} {e : HandlerError}
    (h : ((relogin aamId).run around s).1 = .error e) :
    ((relogin aamId).run around s).2.wallet = s.wallet := by
  cases hheld : s.wallet.get? aamId with
  | none =>
    unfold relogin
    rw [run_bind_ok (run_wallet around s), hheld]
    rfl
  | some bound =>
    obtain ⟨request, hrequest⟩ := bound.home.exists_login around s.past
    have hrun := run_relogin s hheld hrequest
    rw [hrun] at h ⊢
    cases hanswer : around.answer s.calls (.homeToken bound.home.homeAam.address request) with
    | ok token =>
      rw [hanswer] at h
      cases h
    | error cause => rfl

/-! ## Collecting foreign tokens -/

/-- After some calls, with the foreign tokens that are held and those found so far, a visitor goes
through a list of AAMs. It asks some of them, holds more tokens in the end, and has a result. -/
inductive Collects (around : Surroundings) (visitor : Visitor) :
    List Call → Dictionary Token → Dictionary Token → List Aam → List Aam → Dictionary Token →
      Except HandlerError (Dictionary Token) → Prop
  | done {calls : List Call} {held found : Dictionary Token} :
    Collects around visitor calls held found [] [] held (.ok found)
  /-- A token that is held is taken as it is. -/
  | held {calls : List Call} {held found final : Dictionary Token} {aam : Aam}
    {rest asked : List Aam} {token : Token} {result : Except HandlerError (Dictionary Token)}
    (isHeld : held.get? aam.id = some token)
    (next : Collects around visitor calls held (found.put aam.id token) rest asked final result) :
    Collects around visitor calls held found (aam :: rest) asked final result
  /-- An answer is held from then on. -/
  | answered {calls : List Call} {held found final : Dictionary Token} {aam : Aam}
    {rest asked : List Aam} {token : Token} {result : Except HandlerError (Dictionary Token)}
    (missing : held.get? aam.id = none)
    (answer : around.answer calls (visitor.asks aam) = .ok token)
    (next : Collects around visitor (calls ++ [visitor.asks aam]) (held.put aam.id token)
      (found.put aam.id token) rest asked final result) :
    Collects around visitor calls held found (aam :: rest) (aam :: asked) final result
  /-- Nobody is asked after a refusal. -/
  | refused {calls : List Call} {held found : Dictionary Token} {aam : Aam} {rest : List Aam}
    {cause : CallError} (missing : held.get? aam.id = none)
    (answer : around.answer calls (visitor.asks aam) = .error cause) :
    Collects around visitor calls held found (aam :: rest) [aam] held (.error (.call cause))

section Runs

variable {homeAamId : String} {homeToken : Token} {bound : BoundCredentials} {aam : Aam}

theorem foreignToken_of_answered {token : Token} (missing : bound.foreign.get? aam.id = none)
    (answer : around.answer s.calls ((bound.visitor homeToken).asks aam) = .ok token) :
    (foreignToken homeAamId bound homeToken aam).run around s =
      (.ok (bound.withForeign aam.id token, token),
        { wallet := s.wallet.put homeAamId (bound.withForeign aam.id token)
          past := s.past.called ((bound.visitor homeToken).asks aam) }) := by
  refine (foreignToken_of_not_cached missing).trans ?_
  rw [answer]

theorem foreignToken_of_refused {cause : CallError} (missing : bound.foreign.get? aam.id = none)
    (answer : around.answer s.calls ((bound.visitor homeToken).asks aam) = .error cause) :
    (foreignToken homeAamId bound homeToken aam).run around s =
      (.error (.call cause),
        { s with past := s.past.called ((bound.visitor homeToken).asks aam) }) := by
  refine (foreignToken_of_not_cached missing).trans ?_
  rw [answer]

/-- The wallet holds an entry with these foreign tokens, and is otherwise as it was before. -/
def Keeps (s s' : Session) (homeAamId : String) (bound : BoundCredentials)
    (foreign : Dictionary Token) : Prop :=
  ∀ name, s'.wallet.get? name =
    if name = homeAamId then some { bound with foreign } else s.wallet.get? name

theorem keeps_of_wallet_eq {s' : Session} (hheld : s.wallet.get? homeAamId = some bound)
    (hwallet : s'.wallet = s.wallet) : Keeps s s' homeAamId bound bound.foreign := by
  intro name
  rw [hwallet]
  split
  · rename_i hname
    rw [hname]
    exact hheld
  · rfl

/-- **Every run collects.** The tokens go into the entry of the home AAM, which is otherwise the
same, and nothing else is put into the wallet. -/
theorem foreignTokens_collects (around : Surroundings) (homeToken : Token) (aams : List Aam)
    (found : Dictionary Token) (hheld : s.wallet.get? homeAamId = some bound) :
    let run := (foreignTokens homeAamId bound homeToken found aams).run around s
    ∃ asked final,
      Collects around (bound.visitor homeToken) s.calls bound.foreign found aams asked final run.1 ∧
      run.2.past = { s.past with
        calls := s.calls ++ asked.map (bound.visitor homeToken).asks } ∧
      Keeps s run.2 homeAamId bound final := by
  induction aams generalizing s bound found with
  | nil =>
    refine ⟨[], bound.foreign, .done, ?_, keeps_of_wallet_eq hheld rfl⟩
    rw [List.map_nil, List.append_nil]
    rfl
  | cons aam rest ih =>
    cases hcached : bound.foreign.get? aam.id with
    | some token =>
      rw [foreignTokens, run_bind_ok (foreignToken_of_cached hcached)]
      obtain ⟨asked, final, hcollects, hpast, hkeeps⟩ := ih (found.put aam.id token) hheld
      exact ⟨asked, final, .held hcached hcollects, hpast, hkeeps⟩
    | none =>
      cases hanswer : around.answer s.calls ((bound.visitor homeToken).asks aam) with
      | error cause =>
        rw [foreignTokens, run_bind_error (foreignToken_of_refused hcached hanswer)]
        exact ⟨[aam], bound.foreign, .refused hcached hanswer, rfl, keeps_of_wallet_eq hheld rfl⟩
      | ok token =>
        rw [foreignTokens, run_bind_ok (foreignToken_of_answered hcached hanswer)]
        -- the next step starts with the new token in the entry and with the question asked
        obtain ⟨asked, final, hcollects, hpast, hkeeps⟩ := ih
          (s := ⟨s.wallet.put homeAamId (bound.withForeign aam.id token),
            s.past.called ((bound.visitor homeToken).asks aam)⟩)
          (found.put aam.id token) Dictionary.get?_put_self
        refine ⟨aam :: asked, final, .answered hcached hanswer hcollects, ?_, ?_⟩
        · rw [hpast, List.map_cons, List.append_cons]
          rfl
        · intro name
          rw [hkeeps, Dictionary.get?_put]
          split <;> rfl

end Runs

/-! ## What is held in the end -/

/-- Of the AAMs that were asked after some calls, the one with this name answered with a token. -/
def Received (around : Surroundings) (visitor : Visitor) (calls : List Call) (asked : List Aam)
    (id : String) (token : Token) : Prop :=
  ∃ earlier aam later, asked = earlier ++ aam :: later ∧ aam.id = id ∧
    around.answer (calls ++ earlier.map visitor.asks) (visitor.asks aam) = .ok token

section Received

variable {visitor : Visitor} {calls : List Call} {asked : List Aam} {aam : Aam} {id : String}
  {token : Token}

theorem not_received_nil : ¬ Received around visitor calls [] id token := by
  rintro ⟨earlier, aam, later, hasked, -⟩
  exact List.append_ne_nil_of_right_ne_nil earlier (List.cons_ne_nil aam later) hasked.symm

theorem received_cons_iff :
    Received around visitor calls (aam :: asked) id token ↔
      (aam.id = id ∧ around.answer calls (visitor.asks aam) = .ok token) ∨
        Received around visitor (calls ++ [visitor.asks aam]) asked id token := by
  constructor
  · rintro ⟨earlier, other, later, hasked, hid, hanswer⟩
    cases earlier with
    | nil =>
      obtain ⟨rfl, rfl⟩ := List.cons.inj hasked
      rw [List.map_nil, List.append_nil] at hanswer
      exact Or.inl ⟨hid, hanswer⟩
    | cons first earlier =>
      obtain ⟨rfl, rfl⟩ := List.cons.inj hasked
      rw [List.map_cons, List.append_cons] at hanswer
      exact Or.inr ⟨earlier, other, later, rfl, hid, hanswer⟩
  · rintro (⟨hid, hanswer⟩ | ⟨earlier, other, later, rfl, hid, hanswer⟩)
    · refine ⟨[], aam, asked, rfl, hid, ?_⟩
      rw [List.map_nil, List.append_nil]
      exact hanswer
    · refine ⟨aam :: earlier, other, later, rfl, hid, ?_⟩
      rw [List.map_cons, List.append_cons]
      exact hanswer

end Received

/-- Tokens that were found for one name and after it for others. -/
theorem get?_cons_of_found {found final tokens : Dictionary Token} {aam : Aam} {rest : List Aam}
    {id : String} {token : Token} (hfinal : final.get? aam.id = some token)
    (hrest : tokens.get? id = if id ∈ rest.map Aam.id then final.get? id
      else (found.put aam.id token).get? id) :
    tokens.get? id = if id ∈ (aam :: rest).map Aam.id then final.get? id else found.get? id := by
  rw [hrest, List.map_cons]
  by_cases hid : id = aam.id
  · subst hid
    rw [if_pos List.mem_cons_self, Dictionary.get?_put_self, hfinal, ite_self]
  · rw [Dictionary.get?_put, if_neg hid]
    simp only [List.mem_cons, hid, false_or]

/-- AAMs were asked up to one that refused. Tokens of those before it in the list are held now, its
own is not. -/
structure Interrupted (around : Surroundings) (visitor : Visitor) (calls : List Call)
    (held final : Dictionary Token) (before : List Aam) (aam : Aam) (asked : List Aam)
    (e : HandlerError) : Prop where
  refused : ∃ answered cause, asked = answered ++ [aam] ∧ e = .call cause ∧
    around.answer (calls ++ answered.map visitor.asks) (visitor.asks aam) = .error cause
  missing : final.get? aam.id = none
  isSome_iff : ∀ id, (final.get? id).isSome = true ↔
    (held.get? id).isSome = true ∨ id ∈ before.map Aam.id

namespace Collects

variable {visitor : Visitor} {calls : List Call} {held found final : Dictionary Token}
  {aams asked : List Aam} {result : Except HandlerError (Dictionary Token)} {id : String}
  {token : Token}

/-- **Held tokens stay.** -/
theorem get?_of_held (h : Collects around visitor calls held found aams asked final result)
    (hheld : held.get? id = some token) : final.get? id = some token := by
  induction h with
  | done => exact hheld
  | held isHeld next ih => exact ih hheld
  | answered missing answer next ih =>
    apply ih
    rw [Dictionary.get?_put, if_neg]
    · exact hheld
    · rintro rfl
      rw [missing] at hheld
      cases hheld
  | refused => exact hheld

/-- The AAMs are asked in the order of the list. -/
theorem asked_sublist (h : Collects around visitor calls held found aams asked final result) :
    asked.Sublist aams := by
  induction h with
  | done => exact List.Sublist.refl _
  | held isHeld next ih => exact ih.cons _
  | answered missing answer next ih => exact ih.cons_cons _
  | refused => exact (List.nil_sublist _).cons_cons _

theorem missing_of_asked (h : Collects around visitor calls held found aams asked final result) :
    ∀ aam ∈ asked, held.get? aam.id = none := by
  induction h with
  | done => simp
  | held isHeld next ih => exact ih
  | answered missing answer next ih =>
    intro other hother
    rcases List.mem_cons.1 hother with rfl | hother
    · exact missing
    · have hlater := ih other hother
      rw [Dictionary.get?_put] at hlater
      split at hlater
      · cases hlater
      · exact hlater
  | refused missing answer =>
    intro other hother
    rw [List.mem_singleton.1 hother]
    exact missing

/-- Two AAMs of one name are not both asked: once the first has answered, its token is held. -/
theorem nodup_asked (h : Collects around visitor calls held found aams asked final result) :
    (asked.map Aam.id).Nodup := by
  induction h with
  | done => exact List.nodup_nil
  | held isHeld next ih => exact ih
  | @answered calls held found final aam rest asked token result missing answer next ih =>
    rw [List.map_cons, List.nodup_cons]
    refine ⟨?_, ih⟩
    intro hagain
    obtain ⟨other, hother, hid⟩ := List.mem_map.1 hagain
    have hnone := next.missing_of_asked other hother
    rw [Dictionary.get?_put, if_pos hid] at hnone
    cases hnone
  | refused => exact List.nodup_singleton _

/-- **Nothing else is held.** -/
theorem get?_final_iff (h : Collects around visitor calls held found aams asked final result) :
    final.get? id = some token ↔
      held.get? id = some token ∨ Received around visitor calls asked id token := by
  induction h with
  | done => exact (or_iff_left not_received_nil).symm
  | held isHeld next ih => exact ih
  | @answered calls held found final aam rest asked given result missing answer next ih =>
    rw [ih, received_cons_iff, ← or_assoc, Dictionary.get?_put]
    refine or_congr ?_ Iff.rfl
    by_cases hid : id = aam.id
    · subst hid
      rw [if_pos rfl, missing, answer]
      simp
    · rw [if_neg hid]
      exact (or_iff_left fun hgiven => hid hgiven.1.symm).symm
  | refused missing answer =>
    rw [received_cons_iff, answer]
    simp [not_received_nil]

/-- With a result there is a token for every name of the list, the one that is held. -/
theorem get?_result (h : Collects around visitor calls held found aams asked final result)
    {tokens : Dictionary Token} (hresult : result = .ok tokens) :
    tokens.get? id = if id ∈ aams.map Aam.id then final.get? id else found.get? id := by
  induction h with
  | done =>
    cases hresult
    rw [List.map_nil, if_neg List.not_mem_nil]
  | held isHeld next ih => exact get?_cons_of_found (next.get?_of_held isHeld) (ih hresult)
  | answered missing answer next ih =>
    exact get?_cons_of_found (next.get?_of_held Dictionary.get?_put_self) (ih hresult)
  | refused => cases hresult

theorem isSome_of_ok (h : Collects around visitor calls held found aams asked final result)
    {tokens : Dictionary Token} (hresult : result = .ok tokens) :
    ∀ aam ∈ aams, (final.get? aam.id).isSome = true := by
  induction h with
  | done => simp
  | held isHeld next ih =>
    intro other hother
    rcases List.mem_cons.1 hother with rfl | hother
    · rw [next.get?_of_held isHeld]
      rfl
    · exact ih hresult other hother
  | answered missing answer next ih =>
    intro other hother
    rcases List.mem_cons.1 hother with rfl | hother
    · rw [next.get?_of_held Dictionary.get?_put_self]
      rfl
    · exact ih hresult other hother
  | refused => cases hresult

/-- **Errors.** An error is the refusal of one AAM, and for all before it in the list there are
tokens. -/
theorem interrupted (h : Collects around visitor calls held found aams asked final result)
    {e : HandlerError} (hresult : result = .error e) :
    ∃ before aam after, aams = before ++ aam :: after ∧
      Interrupted around visitor calls held final before aam asked e := by
  induction h with
  | done => cases hresult
  | @held calls held found final first rest asked token result isHeld next ih =>
    obtain ⟨before, aam, after, rfl, stop⟩ := ih hresult
    refine ⟨first :: before, aam, after, rfl, stop.refused, stop.missing, ?_⟩
    intro id
    -- the name of the first is not a new one, whether or not it comes again
    rw [stop.isSome_iff, List.map_cons, List.mem_cons]
    refine or_congr_right' ?_
    intro hid
    refine (or_iff_right ?_).symm
    rintro rfl
    rw [isHeld] at hid
    exact hid rfl
  | @answered calls held found final first rest asked token result missing answer next ih =>
    obtain ⟨before, aam, after, rfl, stop⟩ := ih hresult
    refine ⟨first :: before, aam, after, rfl, ?_, stop.missing, ?_⟩
    · obtain ⟨answered, cause, rfl, rfl, hcause⟩ := stop.refused
      refine ⟨first :: answered, cause, rfl, rfl, ?_⟩
      rw [List.map_cons, List.append_cons]
      exact hcause
    · intro id
      rw [stop.isSome_iff, List.map_cons, List.mem_cons, ← or_assoc, Dictionary.get?_put]
      refine or_congr ?_ Iff.rfl
      by_cases hid : id = first.id
      · simp [hid]
      · simp [hid]
  | @refused calls held found aam rest cause missing answer =>
    cases hresult
    refine ⟨[], aam, rest, rfl, ⟨[], cause, rfl, rfl, ?_⟩, missing, ?_⟩
    · rw [List.map_nil, List.append_nil]
      exact answer
    · simp

/-! ## Trying again -/

/-- AAMs whose tokens are held are passed over. -/
theorem of_held {before rest : List Aam}
    (h : Collects around visitor calls held found (before ++ rest) asked final result)
    (hbefore : ∀ aam ∈ before, (held.get? aam.id).isSome = true) :
    ∃ found', Collects around visitor calls held found' rest asked final result := by
  induction before generalizing found with
  | nil => exact ⟨found, h⟩
  | cons aam before ih =>
    have hheld := hbefore aam List.mem_cons_self
    have hrest : ∀ other ∈ before, (held.get? other.id).isSome = true := fun other hother =>
      hbefore other (List.mem_cons_of_mem _ hother)
    cases h with
    | held isHeld next => exact ih next hrest
    | answered missing =>
      rw [missing] at hheld
      cases hheld
    | refused missing =>
      rw [missing] at hheld
      cases hheld

/-- An AAM whose token is not held is asked before all others. -/
theorem asks_first {aam : Aam} {rest : List Aam}
    (h : Collects around visitor calls held found (aam :: rest) asked final result)
    (missing : held.get? aam.id = none) :
    ∃ others, asked = aam :: others ∧ others.Sublist rest := by
  cases h with
  | held isHeld =>
    rw [missing] at isHeld
    cases isHeld
  | answered _ _ next => exact ⟨_, rfl, next.asked_sublist⟩
  | refused => exact ⟨[], rfl, List.nil_sublist _⟩

end Collects

/-! ## Logins -/

theorem loginForeign_of_missing {homeAamId : String} (aams : List Aam)
    (missing : s.wallet.homeToken? homeAamId = none) :
    (loginForeign homeAamId aams).run around s = (.error (.notLoggedIn homeAamId), s) := by
  unfold loginForeign
  rw [run_bind_ok (run_wallet around s)]
  cases hheld : s.wallet.get? homeAamId with
  | none => rfl
  | some bound =>
    have hnone : bound.home.token = none := by
      rw [Wallet.homeToken?, hheld] at missing
      exact missing
    dsimp only
    rw [hnone]
    rfl

section Visits

variable {homeAamId : String} {bound : BoundCredentials} {homeToken : Token} {aams : List Aam}

theorem loginForeign_of_held (hheld : s.wallet.get? homeAamId = some bound)
    (hhome : bound.home.token = some homeToken) :
    (loginForeign homeAamId aams).run around s =
      (foreignTokens homeAamId bound homeToken Catalog.empty aams).run around s := by
  unfold loginForeign
  rw [run_bind_ok (run_wallet around s), hheld]
  dsimp only
  rw [hhome]

/-- From one session to another a client has asked some AAMs of a list, and holds some foreign
tokens towards its home AAM. -/
structure Visits (around : Surroundings) (s s' : Session) (homeAamId : String)
    (bound : BoundCredentials) (homeToken : Token) (aams asked : List Aam)
    (foreign : Dictionary Token) (result : Except HandlerError (Dictionary Token)) : Prop where
  keeps : Keeps s s' homeAamId bound foreign
  past_eq : s'.past = { s.past with
    calls := s.calls ++ asked.map (bound.visitor homeToken).asks }
  /-- They are asked in the order of the list, -/
  sublist : asked.Sublist aams
  /-- no name twice, -/
  nodup : (asked.map Aam.id).Nodup
  /-- and none whose token was held. -/
  missing : ∀ aam ∈ asked, bound.foreign.get? aam.id = none
  /-- Tokens that were held are held still, and those that are new were received. -/
  get?_iff : ∀ id token, foreign.get? id = some token ↔
    bound.foreign.get? id = some token ∨
      Received around (bound.visitor homeToken) s.calls asked id token
  /-- A result has the names of the list, and the tokens that are held. -/
  ok : ∀ tokens, result = .ok tokens →
    (∀ aam ∈ aams, (foreign.get? aam.id).isSome = true) ∧
      ∀ id, tokens.get? id = if id ∈ aams.map Aam.id then foreign.get? id else none
  /-- After an error the same can be tried again, at any later time. This asks the AAM that refused,
  and then none but those after it. -/
  error : ∀ e, result = .error e →
    ∃ before aam after, aams = before ++ aam :: after ∧
      Interrupted around (bound.visitor homeToken) s.calls bound.foreign foreign before aam asked
        e ∧
      ∀ around' past', ∃ others, others.Sublist after ∧
        ((loginForeign homeAamId aams).run around' ⟨s'.wallet, past'⟩).2.calls =
          past'.calls ++ (aam :: others).map (bound.visitor homeToken).asks

/-- **Trying again.** -/
theorem Interrupted.resumes {foreign : Dictionary Token} {before after asked : List Aam} {aam : Aam}
    {e : HandlerError}
    (stop : Interrupted around (bound.visitor homeToken) s.calls bound.foreign foreign before aam
      asked e)
    {s' : Session} (keeps : Keeps s s' homeAamId bound foreign)
    (hhome : bound.home.token = some homeToken) (around' : Surroundings) (past' : History) :
    ∃ others, others.Sublist after ∧
      ((loginForeign homeAamId (before ++ aam :: after)).run around' ⟨s'.wallet, past'⟩).2.calls =
        past'.calls ++ (aam :: others).map (bound.visitor homeToken).asks := by
  have hheld : s'.wallet.get? homeAamId = some { bound with foreign } :=
    (keeps homeAamId).trans (if_pos rfl)
  obtain ⟨asked', final, hcollects, hpast, -⟩ :=
    foreignTokens_collects (s := ⟨s'.wallet, past'⟩) around' homeToken (before ++ aam :: after)
      Catalog.empty hheld
  have hbefore : ∀ other ∈ before, (foreign.get? other.id).isSome = true := by
    intro other hother
    exact (stop.isSome_iff other.id).2 (Or.inr (List.mem_map_of_mem hother))
  obtain ⟨found', hrest⟩ := hcollects.of_held hbefore
  obtain ⟨others, rfl, hsublist⟩ := hrest.asks_first stop.missing
  refine ⟨others, hsublist, ?_⟩
  rw [loginForeign_of_held (s := ⟨s'.wallet, past'⟩) hheld hhome, Session.calls, hpast]
  rfl

/-- **Every foreign login.** -/
theorem loginForeign_visits (hheld : s.wallet.get? homeAamId = some bound)
    (hhome : bound.home.token = some homeToken) :
    let run := (loginForeign homeAamId aams).run around s
    ∃ asked foreign, Visits around s run.2 homeAamId bound homeToken aams asked foreign run.1 := by
  intro run
  obtain ⟨asked, foreign, hcollects, hpast, hkeeps⟩ :=
    foreignTokens_collects around homeToken aams Catalog.empty hheld
  rw [← loginForeign_of_held hheld hhome] at hcollects hpast hkeeps
  refine ⟨asked, foreign, ?_⟩
  exact {
    keeps := hkeeps
    past_eq := hpast
    sublist := hcollects.asked_sublist
    nodup := hcollects.nodup_asked
    missing := hcollects.missing_of_asked
    get?_iff := fun id token => hcollects.get?_final_iff
    ok := fun tokens hresult =>
      ⟨hcollects.isSome_of_ok hresult, fun id => hcollects.get?_result hresult⟩
    error := by
      intro e hresult
      obtain ⟨before, aam, after, rfl, stop⟩ := hcollects.interrupted hresult
      exact ⟨before, aam, after, rfl, stop, stop.resumes hkeeps hhome⟩ }

end Visits

/-- **Failed logins leave the wallet as it was, and foreign logins make progress.** A login or a
renewed login that ends with an error has changed nothing in the wallet, nor has a foreign login
without a home token. Any other foreign login adds to the foreign tokens of the one entry what it
received from AAMs of the list, each asked once at most. When one of them refuses, what was received
before is kept, and a repeated login goes on with the one that refused. -/
theorem failed_logins_keep_wallet (around : Surroundings) (s : Session) :
    (∀ aam username clientId key certificate e,
      let run := (login aam username clientId key certificate).run around s
      run.1 = .error e → run.2.wallet = s.wallet) ∧
    (∀ aamId e,
      let run := (relogin aamId).run around s
      run.1 = .error e → run.2.wallet = s.wallet) ∧
    ∀ homeAamId aams,
      let run := (loginForeign homeAamId aams).run around s
      (s.wallet.homeToken? homeAamId = none → run = (.error (.notLoggedIn homeAamId), s)) ∧
      ∀ bound homeToken, s.wallet.get? homeAamId = some bound →
        bound.home.token = some homeToken →
          ∃ asked foreign,
            Visits around s run.2 homeAamId bound homeToken aams asked foreign run.1 := by
  refine ⟨?_, ?_, ?_⟩
  · intro aam username clientId key certificate e run hresult
    exact wallet_login_of_error hresult
  · intro aamId e run hresult
    exact wallet_relogin_of_error hresult
  · intro homeAamId aams run
    refine ⟨loginForeign_of_missing aams, ?_⟩
    intro bound homeToken hheld hhome
    exact loginForeign_visits hheld hhome

/-! ## A tour -/

open WalletOperation Authenticator

/-- AAMs that give out tokens, but for one that refuses everybody. -/
def refusingAround : Surroundings :=
  { visitAround with
    answer := fun calls call =>
      match call with
      | .foreignToken address .. =>
        if address = "https://t" then .error (.notFound address) else .ok visitorToken
      | call => visitAround.answer calls call }

/-- An account that was used for one visit. -/
def touristEntry : BoundCredentials where
  aam := platformAam "p"
  home := {
    homeAam := platformAam "p"
    username := "u"
    clientId := "c"
    certificate := {}
    key := holderKey
    token := some heldToken }
  foreign := .single "q" visitorToken

def tourist : Session where
  wallet := .single "p" touristEntry

/-- The visit again, and a platform with two addresses. -/
def firstStops : List Aam :=
  [platformAam "q", platformAam "r", { platformAam "r" with address := "https://s" }]

/-- Then the AAM that refuses, and another one. -/
def tour : List Aam :=
  firstStops ++ [platformAam "t", platformAam "u"]

/-- The first token is not asked for, the second once. The third is refused, and asked for first
when the tour is tried again. -/
theorem refused_tour_resumes :
    let run := (loginForeign "p" tour).run refusingAround tourist
    let visitor := touristEntry.visitor heldToken
    run.1 = .error (.call (.notFound "https://t")) ∧
    run.2.calls = [platformAam "r", platformAam "t"].map visitor.asks ∧
    (∃ foreign, run.2.wallet.get? "p" = some { touristEntry with foreign } ∧
      foreign.get? "t" = none ∧
      ∀ id, (foreign.get? id).isSome = true ↔ id ∈ ["q", "r"]) ∧
    ∀ around past, ∃ others, others.Sublist [platformAam "u"] ∧
      ((loginForeign "p" tour).run around ⟨run.2.wallet, past⟩).2.calls =
        past.calls ++ (platformAam "t" :: others).map visitor.asks := by
  intro run visitor
  have hresult : run.1 = .error (.call (.notFound "https://t")) := rfl
  have hcalls : run.2.calls = [platformAam "r", platformAam "t"].map visitor.asks := rfl
  obtain ⟨-, -, hforeign⟩ := failed_logins_keep_wallet refusingAround tourist
  obtain ⟨asked, foreign, visits⟩ := (hforeign "p" tour).2 touristEntry heldToken rfl rfl
  obtain ⟨before, aam, after, htour, stop, hagain⟩ := visits.error _ hresult
  -- the last that was asked is the one at this address
  have hasked : asked.map visitor.asks = [platformAam "r", platformAam "t"].map visitor.asks := by
    have hpast : run.2.calls = asked.map visitor.asks := congrArg History.calls visits.past_eq
    exact hpast.symm.trans hcalls
  obtain ⟨answered, cause, rfl, -, -⟩ := stop.refused
  rw [List.map_append] at hasked
  change _ = [visitor.asks (platformAam "r")] ++ [visitor.asks (platformAam "t")] at hasked
  have hlast : [visitor.asks aam] = [visitor.asks (platformAam "t")] :=
    List.append_inj_right' hasked rfl
  have haddress : aam.address = "https://t" :=
    (Call.foreignToken.inj (List.cons.inj hlast).1).1
  have hothers : ∀ other ∈ firstStops ++ [platformAam "u"], other.address ≠ "https://t" := by
    decide
  have hbefore : aam ∉ firstStops := fun h => hothers aam (List.mem_append_left _ h) haddress
  have hafter : aam ∉ [platformAam "u"] := fun h =>
    hothers aam (List.mem_append_right _ h) haddress
  obtain ⟨rfl, rfl, rfl⟩ := (List.append_cons_inj_of_notMem hbefore hafter).1 htour
  refine ⟨hresult, hcalls, ⟨foreign, visits.keeps "p", stop.missing, ?_⟩, hagain⟩
  intro id
  have hheld : (touristEntry.foreign.get? id).isSome = true ↔ id = "q" := by
    rw [Option.isSome_iff_exists]
    constructor
    · rintro ⟨token, htoken⟩
      exact (Dictionary.get?_single_iff.1 htoken).1
    · rintro rfl
      exact ⟨visitorToken, Dictionary.get?_put_self⟩
  rw [stop.isSome_iff, hheld]
  simp [firstStops, platformAam]

end Handler

end FederatedAccess
