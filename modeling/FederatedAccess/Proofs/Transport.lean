import FederatedAccess.Proof.Possession
import FederatedAccess.Proofs.Json.Record
import FederatedAccess.Proofs.Json.Value
import FederatedAccess.Proofs.Key.Document

/-!
# Requests and proofs in transport

A request is sent as JSON text, the proof of a service as base64 of such a text. Both are read back
as they were written (`SecurityRequest.read_written`, `ServiceProof.ofText?_text`).
-/

namespace FederatedAccess

/-- A list without repetitions is its own list of members. -/
theorem distinct_eq_self {α : Type} [DecidableEq α] {xs : List α} (h : xs.Nodup) :
    distinct xs = xs := by
  induction xs with
  | nil => rfl
  | cons a rest ih =>
    obtain ⟨ha, hrest⟩ := List.nodup_cons.1 h
    rw [distinct, ih hrest, List.filter_eq_self.2]
    intro b hb
    exact decide_eq_true fun e => ha (e ▸ hb)

open Json.Draft

/-! ## Requests -/

theorem SecurityCredentials.ofDraft?_toJson (c : SecurityCredentials) {room : Nat} (h : 0 < room) :
    ofDraft? room (ofJson c.toJson) = some c := by
  obtain ⟨room, rfl⟩ := Nat.exists_eq_succ_of_ne_zero (Nat.ne_of_gt h)
  rfl

namespace SecurityRequest

theorem isIntegral_toJson (request : SecurityRequest) : request.toJson.isIntegral = true := by
  have hcredentials :
      Json.allIntegral (request.credentials.map SecurityCredentials.toJson) = true := by
    refine Json.allIntegral_iff.2 fun v hv => ?_
    obtain ⟨c, -, rfl⟩ := List.mem_map.1 hv
    rfl
  exact Bool.and_eq_true_iff.2 ⟨hcredentials, rfl⟩

/-- What is read counts equal credentials once, and a request has no equal ones. -/
theorem ofList_credentials (request : SecurityRequest) :
    ofList request.credentials request.timestamp = request := by
  obtain ⟨credentials, timestamp, nodup⟩ := request
  simp only [ofList, distinct_eq_self nodup]

/-- **Requests.** A written request is read as this request. -/
theorem read_written (request : SecurityRequest) :
    (readText request.toJson.text).bind (ofDraft? deepest) = some request := by
  have hcredentials : items? (deepest - 1) (SecurityCredentials.ofDraft? (deepest - 2))
      (ofJson (.array (request.credentials.map SecurityCredentials.toJson))) =
      some request.credentials :=
    items?_ofJson (by decide) fun c _ => SecurityCredentials.ofDraft?_toJson c (by decide)
  have hrecord : (ofJson request.toJson).record? ["securityCredentials", "timestamp"] false
      deepest = some [some (ofJson (.array (request.credentials.map SecurityCredentials.toJson))),
        some (.integer (.ofInt64 request.timestamp))] := rfl
  rw [readText, read_text request.isIntegral_toJson, Option.bind_some, ofDraft?, hrecord]
  simp only [required, Option.bind_eq_bind, Option.bind_some, hcredentials, int64?,
    Json.Integer.int64?_ofInt64, ofList_credentials, Option.pure_def]

end SecurityRequest

/-! ## Proofs of a service -/

/-- **Service proofs.** The transport form of a proof is read as this proof. -/
theorem ServiceProof.ofText?_text (p : ServiceProof) : ofText? p.text = some p := by
  have hrecord : (ofJson p.toJson).record? ["hashedTimestamp", "timestamp", "signature"] false
      deepest = some [some (.string p.hashedTimestamp), some (.integer (.ofInt64 p.timestamp)),
        some (.string p.signature)] := rfl
  have hdraft : ofDraft? deepest (ofJson p.toJson) = some p := by
    rw [ofDraft?, hrecord]
    simp [required, text?, int64?, Json.Integer.int64?_ofInt64]
  rw [ofText?, text, Base64.trim_encode, Base64.decode?_encode]
  simp only [Option.bind_eq_bind, Option.bind_some]
  rw [read_text rfl, Option.bind_some, hdraft]

end FederatedAccess
