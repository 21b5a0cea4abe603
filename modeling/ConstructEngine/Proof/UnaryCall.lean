import ConstructEngine.Construction.Unary
import ConstructEngine.Proof.Reassembly

namespace ConstructEngine

/-- The header of an encoded message is the length of the message. -/
theorem encodeGrpcFrame_ofBytes {b1 b2 b3 b4 : UInt8} {message : Bytes}
    (length : message.length = fromBeBytes b1 b2 b3 b4) :
    encodeGrpcFrame message = 0 :: b1 :: b2 :: b3 :: b4 :: message := by
  have small := fromBeBytes_lt b1 b2 b3 b4
  unfold encodeGrpcFrame
  rw [length, Nat.mod_eq_of_lt small, putU32_ofBytes]
  rfl

/-- An accepted frame has a plain header whose length the body covers. -/
theorem decodeGrpcFrame_shape {data message rest : Bytes}
    (decoded : decodeGrpcFrame data = .ok (message, rest)) :
    ∃ b1 b2 b3 b4, data = 0 :: b1 :: b2 :: b3 :: b4 :: (message ++ rest) ∧
      message.length = fromBeBytes b1 b2 b3 b4 := by
  unfold decodeGrpcFrame at decoded
  split at decoded
  · next flag b1 b2 b3 b4 body =>
      split at decoded
      · cases decoded
      · next plain =>
          dsimp only at decoded
          generalize measured : fromBeBytes b1 b2 b3 b4 = msgLen at decoded
          have zero : flag = 0 := by simpa using plain
          split at decoded
          · cases decoded
          · next enough =>
              simp only [Except.ok.injEq, Prod.mk.injEq] at decoded
              refine ⟨b1, b2, b3, b4, ?_, ?_⟩
              · rw [zero, ← decoded.1, ← decoded.2, List.take_append_drop]
              · rw [measured, ← decoded.1, List.length_take]
                omega
  · cases decoded

/-- The decoder accepts only an encoded short message with any bytes after it. -/
theorem decodeGrpcFrame_ok {data message rest : Bytes}
    (decoded : decodeGrpcFrame data = .ok (message, rest)) :
    message.length < 2 ^ 32 ∧ data = encodeGrpcFrame message ++ rest := by
  obtain ⟨b1, b2, b3, b4, shape, length⟩ := decodeGrpcFrame_shape decoded
  constructor
  · rw [length]
    exact fromBeBytes_lt b1 b2 b3 b4
  · rw [encodeGrpcFrame_ofBytes length, shape]
    rfl

/-- The decoder accepts exactly the encoded short messages, and it answers everything else with an
error. -/
theorem decodeGrpcFrame_exact (data : Bytes) :
    (∀ message rest, decodeGrpcFrame data = .ok (message, rest) ↔
      message.length < 2 ^ 32 ∧ data = encodeGrpcFrame message ++ rest) ∧
      ((∀ message rest, message.length < 2 ^ 32 → data ≠ encodeGrpcFrame message ++ rest) →
        ∃ error, decodeGrpcFrame data = .error error) := by
  constructor
  · intro message rest
    constructor
    · exact decodeGrpcFrame_ok
    · rintro ⟨short, rfl⟩
      exact decode_encode short rest
  · intro foreign
    cases decoded : decodeGrpcFrame data with
    | error error => exact ⟨error, rfl⟩
    | ok parts =>
        obtain ⟨short, shape⟩ := decodeGrpcFrame_ok decoded
        exact absurd shape (foreign parts.1 parts.2 short)

/-- A frame has its header at least. -/
theorem encodeGrpcFrame_ne_nil (message : Bytes) : encodeGrpcFrame message ≠ [] := by
  unfold encodeGrpcFrame
  exact List.cons_ne_nil _ _

/-- The server sends a status, headers, chunks of a body and possibly trailers. -/
structure HttpResponse where
  status : StatusCode
  headers : Headers
  chunks : List Bytes
  trailers : Option Headers

namespace HttpResponse

/-- The chunks follow one another. -/
def body (response : HttpResponse) : Bytes := response.chunks.flatten

/-- The H3 stream delivers the whole response as it was sent. -/
def exchange (response : HttpResponse) : H3Exchange where
  recvResponse := .ok (response.status, response.headers)
  recvData := response.chunks
  recvTrailers := .ok response.trailers

/-- A Trailers-Only response has neither a body nor trailers of its own. -/
def trailersOnly (response : HttpResponse) : Prop :=
  response.body = [] ∧ response.trailers = none

end HttpResponse

/-- The headers carry this number as their gRPC status. -/
def CarriesStatus (code : Nat) (headers : Headers) : Prop :=
  ((headers.get "grpc-status").bind toStr).bind parseU32 = some code

instance (code : Nat) (headers : Headers) : Decidable (CarriesStatus code headers) :=
  inferInstanceAs (Decidable (_ = _))

/-- The response has trailers with this status. -/
def TrailersCarry (code : Nat) (response : HttpResponse) : Prop :=
  ∃ trailers, response.trailers = some trailers ∧ CarriesStatus code trailers

/-- A unary call succeeds only with a message that the server sent as a success, and it reports
a missing authentication wherever the server puts it. -/
def UnaryContract (servicePath : String) (response : HttpResponse) : Prop :=
  (∀ message, doUnaryCall servicePath response.exchange = .ok message →
    response.status.code = 200 ∧
    (TrailersCarry 0 response ∨ response.trailersOnly ∧ CarriesStatus 0 response.headers) ∧
    message.length < 2 ^ 32 ∧ response.body = encodeGrpcFrame message) ∧
  (response.status.code = 200 →
    CarriesStatus 16 response.headers ∨ TrailersCarry 16 response →
    ∃ text, doUnaryCall servicePath response.exchange = .error (.unauthenticated text))

/-- An empty body is an empty message. -/
def decodeBody (body : Bytes) : Except EngineError Bytes :=
  if body.isEmpty then .ok [] else (decodeGrpcFrame body).map Prod.fst

/-- After the status line only the trailers and the body decide a delivered response. -/
theorem doUnaryCall_delivered (servicePath : String) (response : HttpResponse) :
    doUnaryCall servicePath response.exchange =
      if response.status.code ≠ 200 then
        .error (.transport s!"HTTP {response.status.text} from '{servicePath}'")
      else match response.trailers with
        | none => decodeBody response.body
        | some trailers =>
            match checkTrailers trailers with
            | .error error => .error error
            | .ok () => decodeBody response.body := by
  have decode : (if response.chunks.flatten.isEmpty then .ok []
      else (decodeGrpcFrame response.chunks.flatten).bind fun result => .ok result.1) =
        decodeBody response.body := by
    unfold decodeBody HttpResponse.body
    split
    · rfl
    · cases decodeGrpcFrame response.chunks.flatten <;> rfl
  rw [← decode]
  by_cases bad : response.status.code = 200
  · cases found : response.trailers with
    | none => simp [doUnaryCall, HttpResponse.exchange, failedWith, Except.mapError, bad, found,
        bind, Except.bind, pure, Except.pure]
    | some trailers =>
        cases checked : checkTrailers trailers <;>
          simp [doUnaryCall, HttpResponse.exchange, failedWith, Except.mapError, bad, found, checked,
            bind, Except.bind, pure, Except.pure]
  · simp [doUnaryCall, HttpResponse.exchange, failedWith, Except.mapError, bad, bind, Except.bind,
      throw, throwThe, MonadExceptOf.throw]

/-- The body is not empty and the frame decoder rejects it. -/
def Undecodable (body : Bytes) : Prop :=
  body ≠ [] ∧ ∀ message rest, decodeGrpcFrame body ≠ .ok (message, rest)

/-- The body is one uncompressed frame. -/
def OneFrame (body : Bytes) : Prop := ∃ message : Bytes, message.length < 2 ^ 32 ∧
  body = encodeGrpcFrame message

/-- These are the responses on which the call keeps its contract. -/
def UnaryCondition (response : HttpResponse) : Prop :=
  response.status.code ≠ 200 ∨ TrailersCarry 16 response ∨
    ¬ CarriesStatus 16 response.headers ∧
      ((∃ trailers, response.trailers = some trailers ∧ ¬ CarriesStatus 0 trailers) ∨
        Undecodable response.body ∨ TrailersCarry 0 response ∧ OneFrame response.body)

/-- A status other than the default one must be carried. -/
theorem grpcStatusOf_eq_iff {trailers : Headers} {code : Nat} (known : code ≠ 2) :
    grpcStatusOf trailers = code ↔ CarriesStatus code trailers := by
  unfold grpcStatusOf CarriesStatus
  cases ((trailers.get "grpc-status").bind toStr).bind parseU32 with
  | none => simp [known.symm]
  | some value => simp

/-- Only zero is a success. -/
theorem fromCode_isOk (code : Nat) : (GrpcStatus.fromCode code).isOk = true ↔ code = 0 := by
  unfold GrpcStatus.fromCode
  split <;> simp_all [GrpcStatus.isOk]

/-- Only sixteen is a missing authentication. -/
theorem fromCode_isUnauthenticated (code : Nat) :
    (GrpcStatus.fromCode code).isUnauthenticated = true ↔ code = 16 := by
  unfold GrpcStatus.fromCode
  split <;> simp_all [GrpcStatus.isUnauthenticated]

/-- A success passes. -/
theorem checkTrailers_ok {trailers : Headers} (success : CarriesStatus 0 trailers) :
    checkTrailers trailers = .ok () := by
  have code := (grpcStatusOf_eq_iff (by decide)).mpr success
  simp [checkTrailers, code, GrpcStatus.fromCode, GrpcStatus.isOk]

/-- A missing authentication is reported with its message. -/
theorem checkTrailers_unauthenticated {trailers : Headers} (missing : CarriesStatus 16 trailers) :
    checkTrailers trailers = .error (.unauthenticated (grpcMessageOf trailers)) := by
  have code := (grpcStatusOf_eq_iff (by decide)).mpr missing
  simp [checkTrailers, code, GrpcStatus.fromCode, GrpcStatus.isOk, GrpcStatus.isUnauthenticated]

/-- Every other status in the trailers gives a gRPC error with its code. -/
theorem checkTrailers_other {trailers : Headers} (failure : ¬ CarriesStatus 0 trailers)
    (other : ¬ CarriesStatus 16 trailers) :
    checkTrailers trailers = .error (.grpc (grpcStatusOf trailers) (grpcMessageOf trailers)) := by
  have notOk : ¬ (GrpcStatus.fromCode (grpcStatusOf trailers)).isOk = true := fun ok =>
    failure ((grpcStatusOf_eq_iff (by decide)).mp ((fromCode_isOk _).mp ok))
  have notMissing : ¬ (GrpcStatus.fromCode (grpcStatusOf trailers)).isUnauthenticated = true :=
    fun missing => other ((grpcStatusOf_eq_iff (by decide)).mp
      ((fromCode_isUnauthenticated _).mp missing))
  simp [checkTrailers, notOk, notMissing]

/-- A body that is not empty is read as a frame. -/
theorem decodeBody_of_decode {body message rest : Bytes} (filled : body ≠ [])
    (decoded : decodeGrpcFrame body = .ok (message, rest)) : decodeBody body = .ok message := by
  unfold decodeBody
  rw [if_neg (by simpa using filled), decoded]
  rfl

/-- A body decodes to the message of its first frame, or to nothing when it is empty. -/
theorem decodeBody_cases (body : Bytes) :
    (body = [] ∧ decodeBody body = .ok []) ∨
    (Undecodable body ∧ ∃ text, decodeBody body = .error (.transport text)) ∨
    ∃ message rest : Bytes, message.length < 2 ^ 32 ∧ body = encodeGrpcFrame message ++ rest ∧
      decodeBody body = .ok message := by
  by_cases empty : body = []
  · exact .inl ⟨empty, by simp [decodeBody, empty]⟩
  · right
    have filled : body.isEmpty = false := by simpa using empty
    cases decoded : decodeGrpcFrame body with
    | error error =>
        left
        refine ⟨⟨empty, by simp [decoded]⟩, ?_⟩
        have transport : ∃ text, error = .transport text := by
          unfold decodeGrpcFrame at decoded
          split at decoded
          · split at decoded
            · cases decoded; exact ⟨_, rfl⟩
            · dsimp only at decoded
              split at decoded <;> cases decoded
              exact ⟨_, rfl⟩
          · cases decoded; exact ⟨_, rfl⟩
        obtain ⟨text, rfl⟩ := transport
        exact ⟨text, by simp [decodeBody, filled, decoded, Except.map]⟩
    | ok pair =>
        obtain ⟨message, rest⟩ := pair
        obtain ⟨short, shape⟩ := decodeGrpcFrame_ok decoded
        exact .inr ⟨message, rest, short, shape, decodeBody_of_decode empty decoded⟩

/-- The message of a single frame is what the body decodes to. -/
theorem decodeBody_encode {message : Bytes} (short : message.length < 2 ^ 32) :
    decodeBody (encodeGrpcFrame message) = .ok message := by
  have decoded := decode_encode short []
  rw [List.append_nil] at decoded
  exact decodeBody_of_decode (encodeGrpcFrame_ne_nil message) decoded

/-- A decoded body satisfies the contract exactly when it is one frame. -/
theorem decodeBody_contract {body : Bytes} :
    (∀ message, decodeBody body = .ok message →
      message.length < 2 ^ 32 ∧ body = encodeGrpcFrame message) ↔
    Undecodable body ∨ OneFrame body := by
  constructor
  · intro contract
    obtain ⟨rfl, empty⟩ | ⟨broken, _⟩ | ⟨message, rest, short, shape, decoded⟩ :=
      decodeBody_cases body
    · exact absurd (contract [] empty).2.symm (encodeGrpcFrame_ne_nil [])
    · exact .inl broken
    · exact .inr ⟨message, contract message decoded⟩
  · rintro (broken | ⟨message, short, rfl⟩) decodedMessage decoded
    · obtain ⟨rfl, _⟩ | ⟨_, text, failed⟩ | ⟨message, rest, short, shape, _⟩ :=
        decodeBody_cases body
      · exact absurd rfl broken.1
      · rw [failed] at decoded; cases decoded
      · exact absurd (by rw [shape]; exact decode_encode short rest) (broken.2 message rest)
    · rw [decodeBody_encode short] at decoded
      cases decoded
      exact ⟨short, rfl⟩

/-- No body says that the authentication is missing. -/
theorem decodeBody_ne_unauthenticated (body : Bytes) (text : String) :
    decodeBody body ≠ .error (.unauthenticated text) := by
  intro failed
  obtain ⟨_, ok⟩ | ⟨_, _, transport⟩ | ⟨_, _, _, _, ok⟩ := decodeBody_cases body <;>
    simp_all

/-- The call keeps its contract exactly on the responses of the condition. -/
theorem unaryCall_contract_iff (servicePath : String) (response : HttpResponse) :
    UnaryContract servicePath response ↔ UnaryCondition response := by
  unfold UnaryContract UnaryCondition
  rw [doUnaryCall_delivered]
  by_cases success : response.status.code = 200
  swap
  · simp [success]
  simp only [success, ne_eq, not_true_eq_false, if_false, true_and, false_or, true_implies]
  cases found : response.trailers with
  | none =>
      have noTrailers (code : Nat) : ¬ TrailersCarry code response := by
        rintro ⟨trailers, given, _⟩
        rw [found] at given
        cases given
      simp only [noTrailers, false_or, or_false, reduceCtorEq, false_and, exists_false,
        decodeBody_ne_unauthenticated, imp_false, HttpResponse.trailersOnly, found, and_true]
      rw [and_comm]
      refine and_congr_right fun _ => ?_
      constructor
      · intro contract
        obtain ⟨empty, ok⟩ | ⟨broken, _⟩ | ⟨message, rest, short, shape, ok⟩ :=
          decodeBody_cases response.body
        · have framed := (contract [] ok).2.2
          rw [empty] at framed
          exact absurd framed.symm (encodeGrpcFrame_ne_nil [])
        · exact broken
        · have empty := (contract message ok).1.1
          rw [shape] at empty
          exact absurd (List.append_eq_nil_iff.mp empty).1 (encodeGrpcFrame_ne_nil message)
      · intro broken message ok
        obtain ⟨short, shape⟩ := decodeBody_contract.mpr (.inl broken) message ok
        exact absurd (decode_encode short []) (by
          rw [List.append_nil, ← shape]; exact broken.2 message [])
  | some trailers =>
      have carries (code : Nat) : TrailersCarry code response ↔ CarriesStatus code trailers := by
        simp [TrailersCarry, found]
      simp only [carries, HttpResponse.trailersOnly, found, reduceCtorEq, and_false, false_and,
        or_false, Option.some.injEq, exists_eq_left']
      by_cases unauthenticated : CarriesStatus 16 trailers
      · simp [checkTrailers_unauthenticated unauthenticated, unauthenticated]
      by_cases ok : CarriesStatus 0 trailers
      · simp only [checkTrailers_ok ok, unauthenticated, ok, not_true_eq_false, false_or, true_and,
          or_false, decodeBody_ne_unauthenticated, exists_false, imp_false]
        rw [decodeBody_contract, and_comm]
      · simp [checkTrailers_other ok unauthenticated, unauthenticated, ok]

/-- A Trailers-Only response with the status for a missing authentication counts as a success
with an empty message. -/
theorem unaryCall_contract_fails :
    ¬ UnaryContract "/shared.proto.services.v1.AuthService/RefreshToken"
      ⟨⟨200, "200 OK"⟩, [("grpc-status", [49, 54])], [], none⟩ := by
  rintro ⟨success, -⟩
  obtain ⟨-, -, -, framed⟩ := success [] rfl
  exact absurd framed.symm (encodeGrpcFrame_ne_nil [])

end ConstructEngine
