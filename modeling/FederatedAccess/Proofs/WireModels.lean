import FederatedAccess.Proofs.Honest
import FederatedAccess.Proofs.Json.Field

/-!
# Wire models in transport

What parties send each other is described field by field. So credentials, requests, challenges,
descriptors and certificates come through a JSON text as they are, with or without the fields that
hold their defaults, and no field is taken for another (`wire_models_travel`). A request is sent in
any order of its credentials, and each of them may leave out its own defaults.
-/

namespace FederatedAccess

open Json.Draft

/-! ## Forms -/

namespace Json.Draft.Form

def text : Form String where
  write := .string
  read? := text?
  sends_write _ := rfl
  read_sent := by
    rintro s _ rfl
    rfl
  integral_sent := by
    rintro s _ rfl
    rfl

def time : Form Int64 where
  write t := .integer (.ofInt64 t)
  read? := int64?
  sends_write _ := rfl
  read_sent := by
    rintro t _ rfl
    exact Json.Integer.int64?_ofInt64 t
  integral_sent := by
    rintro t _ rfl
    rfl

def certificate : Form Certificate where
  write := Certificate.toJson
  read? := Certificate.ofDraft?
  sends_write _ := rfl
  read_sent := by
    rintro c _ rfl
    rfl
  integral_sent := by
    rintro c _ rfl
    rfl

/-- Certificates by the names of their holders. -/
def certificates : Form (Dictionary Certificate) where
  write held := .object (held.mapValues Certificate.toJson).toList
  read? := dictionary? (deepest - 1) Certificate.ofDraft?
  sends_write _ := rfl
  read_sent := by
    rintro held _ rfl
    exact dictionary?_ofJson (by decide) (fun _ => rfl) held
  integral_sent := by
    rintro held _ rfl
    refine Json.allIntegralMembers_iff.2 fun m hm => ?_
    obtain ⟨entry, -, rfl⟩ := List.mem_map.1 hm
    rfl

/-- A record inside another, which may leave out its own defaults. -/
def record {α : Type} {fields : List (RecordField α)} {toJson : α → Json} {room : Nat}
    {read? : Draft → Option α} (record : IsRecord fields room read?)
    (hnames : (fields.map RecordField.name).Nodup) (hroom : 0 < room)
    (toJson_eq : ∀ a, toJson a = .object (written fields a)) : Form α where
  write := toJson
  read? := read?
  Sends a sent := ∃ members, sent = .object members ∧ Thinned a fields members
  sends_write a := ⟨_, toJson_eq a, thinned_written fields a⟩
  read_sent := by
    rintro a _ ⟨members, rfl, h⟩
    exact record.read_thinned hnames hroom h
  integral_sent := by
    rintro a _ ⟨members, rfl, h⟩
    exact h.integral

/-- A sequence inside a record. -/
def list {β : Type} (form : Form β) : Form (List β) where
  write bs := .array (bs.map form.write)
  read? := items? (deepest - 1) form.read?
  Sends bs sent := ∃ items, sent = .array items ∧ List.Forall₂ form.Sends bs items
  sends_write bs :=
    ⟨_, rfl, List.forall₂_map_right_iff.2 (List.forall₂_same.2 fun b _ => form.sends_write b)⟩
  read_sent := by
    rintro bs _ ⟨items, rfl, h⟩
    rw [ofJson, ofItems_eq_map, items?_array_eq_some_iff, List.forall₂_map_left_iff]
    exact ⟨by decide, h.flip.imp fun item b => form.read_sent b item⟩
  integral_sent := by
    rintro bs _ ⟨items, rfl, h⟩
    refine Json.allIntegral_iff.2 ?_
    induction h with
    | nil => exact List.forall_mem_nil _
    | cons hfirst _ ih => exact List.forall_mem_cons.2 ⟨form.integral_sent _ _ hfirst, ih⟩

/-- A sequence without repetitions, in any order; what is read may repeat itself. -/
def set {β : Type} [DecidableEq β] (form : Form β) : Form {bs : List β // bs.Nodup} where
  write bs := form.list.write bs.val
  read? draft := (form.list.read? draft).map fun found => ⟨distinct found, nodup_distinct found⟩
  Sends bs := form.list.Sends bs.val
  sends_write bs := form.list.sends_write bs.val
  read_sent := by
    rintro ⟨bs, hnodup⟩ sent h
    rw [form.list.read_sent bs sent h, Option.map_some]
    exact congrArg some (Subtype.ext (distinct_eq_self hnodup))
  integral_sent bs := form.list.integral_sent bs.val

theorem required_set_iff {β : Type} [DecidableEq β] {form : Form β} {member : Option Draft}
    {bs : {bs : List β // bs.Nodup}} :
    required form.set.read? member = some bs ↔
      ∃ found, required form.list.read? member = some found ∧ distinct found = bs.val := by
  cases member with
  | none => simp [required]
  | some draft => simp [required, set, Subtype.ext_iff]

end Json.Draft.Form

/-! ## Credentials -/

namespace SecurityCredentials

def fields : List (RecordField SecurityCredentials) :=
  [⟨"token", token, .text, none⟩,
    ⟨"authenticationChallenge", challenge, .text, some ""⟩,
    ⟨"clientCertificate", clientCertificate, .certificate, some {}⟩,
    ⟨"clientCertificateSigningAAMCertificate", signingCertificate, .certificate, some {}⟩,
    ⟨"foreignTokenIssuingAAMCertificate", foreignCertificate, .certificate, some {}⟩]

theorem isRecord (room : Nat) : IsRecord fields room (ofDraft? room) := by
  refine .of_found fun found c => ?_
  obtain ⟨token, challenge, client, signing, foreign⟩ := c
  rcases found with _ | ⟨m1, _ | ⟨m2, _ | ⟨m3, _ | ⟨m4, _ | ⟨m5, _ | ⟨m6, rest⟩⟩⟩⟩⟩⟩ <;>
    simp [fields, RecordField.reads_iff, Option.bind_eq_some_iff]
  rfl

theorem fields_ext (a b : SecurityCredentials) (h : ∀ f ∈ fields, f.get a = f.get b) : a = b := by
  obtain ⟨token, challenge, client, signing, foreign⟩ := a
  obtain ⟨token', challenge', client', signing', foreign'⟩ := b
  simpa [fields] using h

/-- Credentials inside a record. -/
def form : Form SecurityCredentials :=
  .record (isRecord (deepest - 2)) (by decide) (by decide) fun _ => rfl

end SecurityCredentials

namespace CredentialCertificates

def fields : List (RecordField CredentialCertificates) :=
  [⟨"clientCertificate", client, .certificate, some {}⟩,
    ⟨"clientCertificateSigningAAMCertificate", signing, .certificate, some {}⟩,
    ⟨"foreignTokenIssuingAAMCertificate", foreign, .certificate, some {}⟩]

theorem isRecord (room : Nat) : IsRecord fields room (ofDraft? room) := by
  refine .of_found fun found c => ?_
  obtain ⟨client, signing, foreign⟩ := c
  rcases found with _ | ⟨m1, _ | ⟨m2, _ | ⟨m3, _ | ⟨m4, rest⟩⟩⟩⟩ <;>
    simp [fields, RecordField.reads_iff, Option.bind_eq_some_iff]
  rfl

theorem fields_ext (a b : CredentialCertificates) (h : ∀ f ∈ fields, f.get a = f.get b) :
    a = b := by
  obtain ⟨client, signing, foreign⟩ := a
  obtain ⟨client', signing', foreign'⟩ := b
  simpa [fields] using h

end CredentialCertificates

namespace Aam

def fields : List (RecordField Aam) :=
  [⟨"aamInstanceId", id, .text, none⟩, ⟨"aamAddress", address, .text, none⟩,
    ⟨"aamInstanceFriendlyName", friendlyName, .text, some ""⟩,
    ⟨"aamCACertificate", certificate, .certificate, none⟩,
    ⟨"componentCertificates", components, .certificates, some Catalog.empty⟩]

theorem isRecord : IsRecord fields deepest (ofDraft? deepest) := by
  refine .of_found fun found aam => ?_
  obtain ⟨id, address, friendlyName, certificate, components⟩ := aam
  rcases found with _ | ⟨m1, _ | ⟨m2, _ | ⟨m3, _ | ⟨m4, _ | ⟨m5, _ | ⟨m6, rest⟩⟩⟩⟩⟩⟩ <;>
    simp [fields, RecordField.reads_iff, Option.bind_eq_some_iff]
  rfl

theorem fields_ext (a b : Aam) (h : ∀ f ∈ fields, f.get a = f.get b) : a = b := by
  obtain ⟨id, address, friendlyName, certificate, components⟩ := a
  obtain ⟨id', address', friendlyName', certificate', components'⟩ := b
  simpa [fields] using h

end Aam

/-! ## Challenges -/

namespace SignedHash

def fields : List (RecordField SignedHash) :=
  [⟨"hash", hash, .text, none⟩, ⟨"signature", signature, .text, none⟩]

theorem isRecord (room : Nat) : IsRecord fields room (ofDraft? room) := by
  refine .of_found fun found s => ?_
  obtain ⟨hash, signature⟩ := s
  rcases found with _ | ⟨m1, _ | ⟨m2, _ | ⟨m3, rest⟩⟩⟩ <;>
    simp [fields, RecordField.reads_iff, Option.bind_eq_some_iff]
  rfl

theorem fields_ext (a b : SignedHash) (h : ∀ f ∈ fields, f.get a = f.get b) : a = b := by
  obtain ⟨hash, signature⟩ := a
  obtain ⟨hash', signature'⟩ := b
  simpa [fields] using h

/-- A signed hash inside a record. -/
def form : Form SignedHash :=
  .record (isRecord (deepest - 2)) (by decide) (by decide) fun _ => rfl

end SignedHash

namespace ApplicationChallenge

def fields : List (RecordField ApplicationChallenge) :=
  [⟨"signedHashes", signedHashes, SignedHash.form.list, none⟩, ⟨"timestamp", timestamp, .time, none⟩]

theorem isRecord : IsRecord fields deepest (ofDraft? deepest) := by
  refine .of_found fun found c => ?_
  obtain ⟨signedHashes, timestamp⟩ := c
  rcases found with _ | ⟨m1, _ | ⟨m2, _ | ⟨m3, rest⟩⟩⟩ <;>
    simp [fields, RecordField.reads_iff, Option.bind_eq_some_iff]
  rfl

theorem fields_ext (a b : ApplicationChallenge) (h : ∀ f ∈ fields, f.get a = f.get b) :
    a = b := by
  obtain ⟨signedHashes, timestamp⟩ := a
  obtain ⟨signedHashes', timestamp'⟩ := b
  simpa [fields] using h

end ApplicationChallenge

/-! ## Requests -/

namespace SecurityRequest

def fields : List (RecordField SecurityRequest) :=
  [⟨"securityCredentials", fun request => ⟨request.credentials, request.nodup⟩,
      SecurityCredentials.form.set, none⟩,
    ⟨"timestamp", timestamp, .time, none⟩]

theorem isRecord : IsRecord fields deepest (ofDraft? deepest) := by
  refine .of_found fun found request => ?_
  obtain ⟨credentials, timestamp, nodup⟩ := request
  rcases found with _ | ⟨m1, _ | ⟨m2, _ | ⟨m3, rest⟩⟩⟩ <;>
    simp [fields, RecordField.reads_iff, Option.bind_eq_some_iff]
  -- repetitions count once
  rw [Form.required_set_iff]
  constructor
  · rintro ⟨found, hfound, time, htime, hrequest⟩
    cases hrequest
    exact ⟨⟨found, hfound, rfl⟩, htime⟩
  · rintro ⟨⟨found, hfound, rfl⟩, htime⟩
    exact ⟨found, hfound, timestamp, htime, rfl⟩

theorem fields_ext (a b : SecurityRequest) (h : ∀ f ∈ fields, f.get a = f.get b) : a = b := by
  obtain ⟨credentials, timestamp, nodup⟩ := a
  obtain ⟨credentials', timestamp', nodup'⟩ := b
  simpa [fields] using h

end SecurityRequest

/-- **Wire models travel.** Credentials, the certificates that go with a token, descriptors, signed
hashes, challenges and requests come through a JSON text, with or without the fields that hold their
defaults, and each field comes from its own member. A request may be sent in any order of its
credentials, each of them with or without its defaults. -/
theorem wire_models_travel :
    Travels SecurityCredentials.fields SecurityCredentials.toJson
      (SecurityCredentials.ofDraft? deepest) ∧
    Travels CredentialCertificates.fields CredentialCertificates.toJson
      (CredentialCertificates.ofDraft? deepest) ∧
    Travels Aam.fields Aam.toJson (Aam.ofDraft? deepest) ∧
    Travels SignedHash.fields SignedHash.toJson (SignedHash.ofDraft? deepest) ∧
    Travels ApplicationChallenge.fields ApplicationChallenge.toJson
      (ApplicationChallenge.ofDraft? deepest) ∧
    Travels SecurityRequest.fields SecurityRequest.toJson (SecurityRequest.ofDraft? deepest) ∧
    ∀ request sent members, sent.SameAs request → Thinned sent SecurityRequest.fields members →
      ∃ received, (readText (Json.object members).text).bind (SecurityRequest.ofDraft? deepest) =
        some received ∧ received.SameAs request := by
  have hrequests : Travels SecurityRequest.fields SecurityRequest.toJson
      (SecurityRequest.ofDraft? deepest) :=
    SecurityRequest.isRecord.travels (by decide) (by decide) SecurityRequest.fields_ext
      fun _ => rfl
  refine ⟨?_, ?_, ?_, ?_, ?_, hrequests, fun request sent members same hthinned => ?_⟩
  · exact (SecurityCredentials.isRecord deepest).travels (by decide) (by decide)
      SecurityCredentials.fields_ext fun _ => rfl
  · exact (CredentialCertificates.isRecord deepest).travels (by decide) (by decide)
      CredentialCertificates.fields_ext fun _ => rfl
  · exact Aam.isRecord.travels (by decide) (by decide) Aam.fields_ext fun _ => rfl
  · exact (SignedHash.isRecord deepest).travels (by decide) (by decide)
      SignedHash.fields_ext fun _ => rfl
  · exact ApplicationChallenge.isRecord.travels (by decide) (by decide)
      ApplicationChallenge.fields_ext fun _ => rfl
  · exact ⟨sent, hrequests.read_thinned sent members hthinned, same⟩

/-! ## A request without its defaults -/

/-- A guest's credentials, which hold defaults only, and some with a proof. -/
def sparseRequest : SecurityRequest where
  credentials := [.ofToken "\"é", { token := "t", challenge := "c" }]
  timestamp := -1
  nodup := by decide

def sparseBackwards : SecurityRequest where
  credentials := sparseRequest.credentials.reverse
  timestamp := -1
  nodup := by decide

/-- The request in the other order, without anything that may be left out. -/
def sparseMembers : List (String × Json) :=
  [("securityCredentials", .array
      [.object [("token", .string "t"), ("authenticationChallenge", .string "c")],
        .object [("token", .string "\"é")]]),
    ("timestamp", .integer (.ofInt64 (-1)))]

theorem sparse_request_travels :
    sparseBackwards.SameAs sparseRequest ∧
    Thinned sparseBackwards SecurityRequest.fields sparseMembers ∧
    ∃ received, (readText (Json.object sparseMembers).text).bind
      (SecurityRequest.ofDraft? deepest) = some received ∧ received.SameAs sparseRequest := by
  have same : sparseBackwards.SameAs sparseRequest := ⟨rfl, fun _ => List.mem_reverse⟩
  have proved : SecurityCredentials.form.Sends { token := "t", challenge := "c" }
      (.object [("token", .string "t"), ("authenticationChallenge", .string "c")]) :=
    ⟨_, rfl, .keep rfl (.keep rfl (.leave rfl (.leave rfl (.leave rfl .nil))))⟩
  have guest : SecurityCredentials.form.Sends (.ofToken "\"é")
      (.object [("token", .string "\"é")]) :=
    ⟨_, rfl, .keep rfl (.leave rfl (.leave rfl (.leave rfl (.leave rfl .nil))))⟩
  have thinned : Thinned sparseBackwards SecurityRequest.fields sparseMembers :=
    .keep ⟨_, rfl, .cons proved (.cons guest .nil)⟩ (.keep rfl .nil)
  obtain ⟨-, -, -, -, -, -, hrequests⟩ := wire_models_travel
  exact ⟨same, thinned, hrequests sparseRequest sparseBackwards sparseMembers same thinned⟩

end FederatedAccess
