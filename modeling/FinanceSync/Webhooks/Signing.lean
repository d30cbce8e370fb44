import FinanceSync.Data.Values
import Mathlib.Algebra.BigOperators.Group.List.Basic
import Mathlib.Algebra.GroupWithZero.Nat
import Mathlib.Data.List.Sort

/-!
# Webhook signatures

A delivery is signed before its signature becomes a field of it, and is sent with
the field.  The consumer's check signs everything it is given, so that it accepts a
delivery only after the field has been taken out again.
-/

namespace FinanceSync

/-! ## Canonical texts -/

namespace Json

/-- `\uXXXX` -/
def escapeUnit (unit : Nat) : List Char :=
  let digits := Nat.toDigits 16 unit
  '\\' :: 'u' :: (List.replicate (4 - digits.length) '0' ++ digits)

/-- A character of a string in ASCII. -/
def escapeChar (char : Char) : List Char :=
  if char = '"' then ['\\', '"']
  else if char = '\\' then ['\\', '\\']
  else if char = '\n' then ['\\', 'n']
  else if char = '\r' then ['\\', 'r']
  else if char = '\t' then ['\\', 't']
  else if char = '\x08' then ['\\', 'b']
  else if char = '\x0c' then ['\\', 'f']
  else
    let code := char.toNat
    if 32 ≤ code ∧ code < 127 then [char]
    else if code < 0x10000 then escapeUnit code
    else
      escapeUnit (0xd800 + (code - 0x10000) / 0x400) ++
        escapeUnit (0xdc00 + (code - 0x10000) % 0x400)

def dumpsString (text : String) : String :=
  String.ofList ('"' :: text.toList.flatMap escapeChar ++ ['"'])

def sortKeys (fields : List (String × String)) : List (String × String) :=
  fields.insertionSort fun field other => field.1 ≤ other.1

mutual

/-- `json.dumps(value, sort_keys=True)` -/
def dumps : Json → String
  | null => "null"
  | bool true => "true"
  | bool false => "false"
  | number text => text
  | string text => dumpsString text
  | array items => "[" ++ ", ".intercalate (dumpsItems items) ++ "]"
  | object fields =>
      "\x7b" ++ ", ".intercalate ((sortKeys (dumpsFields fields)).map Prod.snd) ++ "\x7d"

def dumpsItems : List Json → List String
  | [] => []
  | item :: rest => dumps item :: dumpsItems rest

/-- The fields with their names. -/
def dumpsFields : List (String × Json) → List (String × String)
  | [] => []
  | (name, value) :: rest =>
      (name, dumpsString name ++ ": " ++ dumps value) :: dumpsFields rest

end

theorem dumpsFields_eq_map (fields : List (String × Json)) :
    dumpsFields fields = fields.map fun (name, value) =>
      (name, dumpsString name ++ ": " ++ dumps value) := by
  induction fields with
  | nil => rfl
  | cons field rest ih =>
      rw [dumpsFields, ih]
      rfl

theorem length_intercalate (separator : String) {texts : List String} (nonempty : texts ≠ []) :
    (separator.intercalate texts).length + separator.length =
      (texts.map fun text => text.length + separator.length).sum := by
  induction texts with
  | nil => exact absurd rfl nonempty
  | cons text rest ih =>
      cases rest with
      | nil => simp
      | cons other rest =>
          have later := ih (List.cons_ne_nil _ _)
          rw [String.intercalate_cons_cons, String.length_append, String.length_append,
            List.map_cons, List.sum_cons, ← later]
          omega

/-- The length of an object with at least one field. -/
theorem length_dumps_object {fields : List (String × Json)} (nonempty : fields ≠ []) :
    (dumps (object fields)).length =
      ((dumpsFields fields).map fun field => field.2.length + 2).sum := by
  have sorted : (sortKeys (dumpsFields fields)).Perm (dumpsFields fields) :=
    List.perm_insertionSort ..
  have texts : (sortKeys (dumpsFields fields)).map Prod.snd ≠ [] := by
    intro empty
    rw [List.map_eq_nil_iff] at empty
    rw [empty, List.nil_perm, dumpsFields_eq_map, List.map_eq_nil_iff] at sorted
    exact nonempty sorted
  have length := length_intercalate ", " texts
  have separator : ", ".length = 2 := rfl
  have brackets : "\x7b".length = 1 ∧ "\x7d".length = 1 := ⟨rfl, rfl⟩
  rw [List.map_map, (sorted.map _).sum_eq, separator] at length
  rw [dumps, String.length_append, String.length_append, brackets.1, brackets.2]
  calc
    1 + (", ".intercalate ((sortKeys (dumpsFields fields)).map Prod.snd)).length + 1 =
        (", ".intercalate ((sortKeys (dumpsFields fields)).map Prod.snd)).length + 2 := by omega
    _ = _ := length

/-- A further field makes the text of an object longer. -/
theorem length_dumps_lt {fields : List (String × Json)} (nonempty : fields ≠ [])
    (field : String × Json) :
    (dumps (object fields)).length < (dumps (object (fields ++ [field]))).length := by
  rw [length_dumps_object nonempty, length_dumps_object (by simp), dumpsFields_eq_map,
    dumpsFields_eq_map, List.map_append, List.map_append, List.sum_append]
  simp

end Json

namespace Webhooks

/-! ## Signing and sending -/

structure SignedEvent where
  eventType : String
  occurredAt : String
  data : List (String × Json)
  eventId : Option String

/-- What `_attempt_delivery` posts: the JSON body and the header `X-Signature-256`. -/
structure Request where
  body : List (String × Json)
  signature : String

/-- The payload before it is signed. -/
def SignedEvent.payload (event : SignedEvent) : List (String × Json) :=
  [("event_type", .string event.eventType), ("occurred_at", .string event.occurredAt),
    ("data", .object event.data), ("event_id", (event.eventId.map Json.string).getD .null)]

/-- `hmac.new(secret, text, hashlib.sha256).hexdigest()` -/
abbrev Hmac := String → String → String

variable (hmac : Hmac)

def signPayload (payload : List (String × Json)) (secret : String) : String :=
  hmac secret (Json.object payload).dumps

def verifySignature (payload : List (String × Json)) (signature secret : String) : Bool :=
  signPayload hmac payload secret = signature

/-- The payload of the delivery log. -/
def deliver (event : SignedEvent) (secret : String) : List (String × Json) :=
  event.payload ++ [("signature", .string (signPayload hmac event.payload secret))]

def attemptRequest (payload : List (String × Json)) : Request where
  body := payload
  signature :=
    match payload.lookup "signature" with
    | some (.string signature) => signature
    | _ => ""

/-- What a consumer is sent for an event. -/
def request (event : SignedEvent) (secret : String) : Request :=
  attemptRequest (deliver hmac event secret)

theorem request_signature (event : SignedEvent) (secret : String) :
    (request hmac event secret).signature = signPayload hmac event.payload secret := rfl

theorem request_body (event : SignedEvent) (secret : String) :
    (request hmac event secret).body = event.payload ++
      [("signature", .string (signPayload hmac event.payload secret))] := rfl

theorem verifySignature_body {hmac : Hmac} (injective : ∀ secret, Function.Injective (hmac secret))
    (event : SignedEvent) (secret : String) :
    verifySignature hmac (request hmac event secret).body (request hmac event secret).signature
      secret = false := by
  rw [request_signature, request_body, verifySignature, decide_eq_false_iff_not]
  intro same
  have nonempty : event.payload ≠ [] := List.cons_ne_nil _ _
  have longer := Json.length_dumps_lt nonempty
    ("signature", .string (signPayload hmac event.payload secret))
  rw [injective secret same] at longer
  exact lt_irrefl _ longer

/-- A body as it is sent is not what was signed; without the signature it is. -/
theorem verifySignature_request (injective : ∀ secret, Function.Injective (hmac secret))
    (event : SignedEvent) (secret : String) :
    verifySignature hmac (request hmac event secret).body (request hmac event secret).signature
        secret = false ∧
      verifySignature hmac
          ((request hmac event secret).body.filter fun field => field.1 ≠ "signature")
          (request hmac event secret).signature secret = true := by
  refine ⟨verifySignature_body injective event secret, ?_⟩
  have unsigned : (event.payload ++
      [("signature", Json.string (signPayload hmac event.payload secret))]).filter
        (fun field => field.1 ≠ "signature") = event.payload := by
    rfl
  rw [request_signature, request_body, unsigned, verifySignature, decide_eq_true_iff]

section Runs

private def syncCompleted : SignedEvent where
  eventType := "sync.completed"
  occurredAt := "2026-01-02T00:00:00+00:00"
  data := [("accounts", .number "5")]
  eventId := some "evt-001"

/-- The text that is signed. -/
private def signedText : String :=
  "\x7b\"data\": \x7b\"accounts\": 5\x7d, \"event_id\": \"evt-001\", " ++
    "\"event_type\": \"sync.completed\", " ++
    "\"occurred_at\": \"2026-01-02T00:00:00+00:00\"\x7d"

/-- The text of the body that is sent. -/
private def sentText : String :=
  "\x7b\"data\": \x7b\"accounts\": 5\x7d, \"event_id\": \"evt-001\", " ++
    "\"event_type\": \"sync.completed\", " ++
    "\"occurred_at\": \"2026-01-02T00:00:00+00:00\", " ++
    "\"signature\": \"c6d67b7d44a763571eba09c03755f630c25f8ce861d8d8c0e1d1ba65b3e37b99\"\x7d"

/-- The digests of the two texts under the key `secret`. -/
private def digests : String × String :=
  ("c6d67b7d44a763571eba09c03755f630c25f8ce861d8d8c0e1d1ba65b3e37b99",
    "a68501ef8d4e76b87d1368cf5815c26ea0ed4953331d62f0cd8cc91668026436")

private def sampleHmac : Hmac := fun secret text =>
  if secret ≠ "secret" then text
  else if text = signedText then digests.1
  else if text = sentText then digests.2
  else "digest of " ++ text

private theorem ofList_ne_append {first head : Char} {rest more : List Char} (text : String)
    (ne : first ≠ head) :
    String.ofList (first :: rest) ≠ String.ofList (head :: more) ++ text := by
  intro same
  have lists := congrArg String.toList same
  rw [String.toList_append, String.toList_ofList, String.toList_ofList] at lists
  exact ne (List.cons.inj lists).1

private theorem digest_ne (text : String) :
    digests.1 ≠ "digest of " ++ text ∧ digests.2 ≠ "digest of " ++ text :=
  ⟨ofList_ne_append text (by decide), ofList_ne_append text (by decide)⟩

private theorem sampleHmac_injective (secret : String) :
    Function.Injective (sampleHmac secret) := by
  intro text other same
  unfold sampleHmac at same
  split at same
  · exact same
  · split at same
    · next first =>
        split at same
        · next second => rw [first, second]
        · split at same
          · exact absurd same (by decide)
          · exact absurd same (digest_ne other).1
    · split at same
      · next first =>
          split at same
          · exact absurd same (by decide)
          · split at same
            · next second => rw [first, second]
            · exact absurd same (digest_ne other).2
      · split at same
        · exact absurd same.symm (digest_ne text).1
        · split at same
          · exact absurd same.symm (digest_ne text).2
          · exact (String.append_right_inj _).mp same

/-- The signature of an event does not verify the body that carries it. -/
theorem syncCompleted_not_verified :
    verifySignature sampleHmac (request sampleHmac syncCompleted "secret").body
      (request sampleHmac syncCompleted "secret").signature "secret" = false :=
  verifySignature_body sampleHmac_injective syncCompleted "secret"

theorem verifySignature_request_syncCompleted :
    verifySignature sampleHmac (request sampleHmac syncCompleted "secret").body
        (request sampleHmac syncCompleted "secret").signature "secret" = false :=
  (verifySignature_request sampleHmac sampleHmac_injective syncCompleted "secret").1

end Runs

end Webhooks

end FinanceSync
