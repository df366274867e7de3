import Yappy.GatewaySession
import Yappy.MessageMarkdown

/-!
# The bytes of a dispatch

What `JSON.stringify` makes of a frame, and what `prepareDispatch` of `packages/shared/src/protocol.ts`
puts together by hand. A fan-out of `apps/gateway/src/subscriptions.ts` prepares one frame for all its
recipients, and a session cannot tell.
-/
namespace Yappy.Gateway

open Markdown (CodeUnit Text text)

/-- What `JSON.stringify` is given. A number comes as it is written, and the members of an object in the order
in which they are enumerated. -/
inductive Value
  | undefined | null
  | bool (b : Bool)
  | number (digits : String)
  | string (text : Text)
  | array (items : List Value)
  | object (members : List (Text × Value))

def isHigh (u : CodeUnit) : Bool := 0xD800 ≤ u && u < 0xDC00
def isLow (u : CodeUnit) : Bool := 0xDC00 ≤ u && u < 0xE000

def escaped (u : CodeUnit) : String :=
  if u = 0x08 then "\\b" else if u = 0x09 then "\\t" else if u = 0x0A then "\\n"
  else if u = 0x0C then "\\f" else if u = 0x0D then "\\r"
  else if u = 0x22 then "\\\"" else if u = 0x5C then "\\\\"
  else if u < 0x20 || isHigh u || isLow u then "\\u" ++ String.ofList ((Nat.toDigits 16 u.toNat).leftpad 4 '0')
  else String.singleton (Char.ofNat u.toNat)

def quotedUnits : Text → String
  | [] => ""
  | [u] => escaped u
  | u :: v :: rest =>
    if isHigh u && isLow v then
      String.singleton (Char.ofNat (0x10000 + 0x400 * (u.toNat - 0xD800) + (v.toNat - 0xDC00))) ++
        quotedUnits rest
    else escaped u ++ quotedUnits (v :: rest)

def quote (t : Text) : String := "\"" ++ quotedUnits t ++ "\""

mutual

/-- `JSON.stringify`; what is undefined has no JSON. -/
def stringify : Value → Option String
  | .undefined => none
  | .null => some "null"
  | .bool b => some (if b then "true" else "false")
  | .number digits => some digits
  | .string text => some (quote text)
  | .array items => some ("[" ++ ",".intercalate (elements items) ++ "]")
  | .object members => some ("\x7b" ++ ",".intercalate (properties members) ++ "\x7d")

def elements : List Value → List String
  | [] => []
  | item :: items => (stringify item).getD "null" :: elements items

def properties : List (Text × Value) → List String
  | [] => []
  | (key, value) :: members =>
    ((stringify value).map fun json => quote key ++ ":" ++ json).toList ++ properties members

end

/-- A `GatewayFrame` with `GatewayOp.Dispatch`. -/
def dispatchFrame (event : Text) (s : ℕ) (data : Value) : Value :=
  .object [(text ['o', 'p'], .number "0"), (text ['t'], .string event), (text ['s'], .number (toString s)),
    (text ['d'], data)]

/-- `encodeFrame`. -/
def encodeJson (event : Text) (s : ℕ) (data : Value) : String :=
  (stringify (dispatchFrame event s data)).getD "undefined"

/-- `prepareDispatch`. -/
def prepareJson (event : Text) (data : Value) : Option PreparedDispatch :=
  (stringify data).map fun json =>
    ⟨"\x7b\"op\":0,\"t\":" ++ (stringify (.string event)).getD "undefined" ++ ",\"s\":",
      ",\"d\":" ++ json ++ "\x7d"⟩

namespace World
variable (w : World)

/-- `session.dispatch`. -/
def dispatchJson (event : Text) (data : Value) : World :=
  let w := w.count fun s => encodeJson event s data
  w.emit (encodeJson event w.session.seq data)

/-- One recipient of `handlerFor`. -/
def fanOutJson (event : Text) (data : Value) : World :=
  match prepareJson event data with
  | some prepared => w.dispatchPrepared prepared
  | none => w.dispatchJson event data

end World

/-- What a session is called for, and what befalls it besides. -/
inductive Call
  | dispatch (event : Text) (data : Value)
  | fanOut (event : Text) (data : Value)
  | other (event : Event)

def Call.plain : Call → Call
  | fanOut event data => dispatch event data
  | call => call

def World.call (w : World) : Call → World
  | .dispatch event data => if w.destroyed then w else w.dispatchJson event data
  | .fanOut event data => if w.destroyed then w else w.fanOutJson event data
  | .other event => w.step id event

/-- The keys come in the order in which they are written down, the number in its decimal digits, and an
undefined payload not at all. -/
theorem encodeJson_eq (event : Text) (s : ℕ) (data : Value) :
    encodeJson event s data = encodeFrame id (quote event) s (stringify data) := by
  have hop : quote (text ['o', 'p']) = "\"op\"" := by decide
  have ht : quote (text ['t']) = "\"t\"" := by decide
  have hs : quote (text ['s']) = "\"s\"" := by decide
  have hd : quote (text ['d']) = "\"d\"" := by decide
  simp only [encodeJson, dispatchFrame, stringify, properties, Option.getD_some, Option.map_some,
    Option.toList_some, hop, ht, hs, hd]
  unfold encodeFrame
  rw [← String.toList_inj]
  cases stringify data with
  | none => simp [String.intercalate_cons_cons]
  | some json => simp [String.intercalate_cons_cons]

lemma prepareJson_eq (event : Text) (data : Value) :
    prepareJson event data = prepareDispatch id (quote event) (stringify data) := by
  simp only [prepareJson, prepareDispatch, stringify, Option.getD_some, id]

lemma dispatchJson_eq (w : World) (event : Text) (data : Value) :
    w.dispatchJson event data = w.dispatch id (quote event) (stringify data) := by
  simp only [World.dispatchJson, World.dispatch, encodeJson_eq]

lemma fanOutJson_eq (w : World) (event : Text) (data : Value) :
    w.fanOutJson event data = w.dispatchJson event data := by
  rw [dispatchJson_eq, ← fanOut_eq_dispatch, World.fanOutJson, World.fanOut, prepareJson_eq]
  cases prepareDispatch id (quote event) (stringify data) with
  | none => exact dispatchJson_eq w event data
  | some prepared => rfl

lemma call_plain (w : World) (call : Call) : w.call call.plain = w.call call := by
  cases call with
  | dispatch event data => rfl
  | fanOut event data => simp only [Call.plain, World.call, fanOutJson_eq]
  | other event => rfl

end Yappy.Gateway
