/-
**From tokens to a JSON value.**

Tokens are taken one at a time, and containers that are not yet closed wait in a list of frames;
so the depth of nesting is bounded by nothing but the text itself.

Main definitions:

* `Json.Frame` — an open container;
* `Json.Reader` — what may come next, with `Json.Reader.step` for one token;
* `Json.ofText?` — the value of a text.
-/

import AssetMarket.Json.Token

set_option relaxedAutoImplicit false
set_option autoImplicit false

namespace AssetMarket

namespace Json

/-- A container that is not yet closed, with what it holds so far, newest first. -/
inductive Frame where
  | array (items : List Json)
  | object (members : List (Option String × Json))
  /-- An object whose next member has its name already. -/
  | member (members : List (Option String × Json)) (name : Option String)

/-- What may come next. -/
inductive Reader.Mode where
  /-- A value. -/
  | value
  /-- A value, or the end of an array just opened. -/
  | firstItem
  /-- A name, or the end of an object just opened. -/
  | firstName
  /-- A name. -/
  | name
  /-- The colon after a name. -/
  | colon
  /-- What follows a value: a comma or the end of the container, or the end of all. -/
  | after (value : Json)

/-- Where the reading stands. -/
structure Reader where
  mode : Reader.Mode
  frames : List Frame

namespace Reader

/-- The reader before the first token. -/
def start : Reader := ⟨.value, []⟩

/-- A token where a value may begin. -/
def stepValue (frames : List Frame) : Token → Option Reader
  | .scalar value => some ⟨.after value, frames⟩
  | .text s => some ⟨.after (.text s), frames⟩
  | .openBracket => some ⟨.firstItem, .array [] :: frames⟩
  | .openBrace => some ⟨.firstName, .object [] :: frames⟩
  | _ => none

/-- A token where a name must stand. -/
def stepName : List Frame → Token → Option Reader
  | .object members :: frames, .text s => some ⟨.colon, .member members s :: frames⟩
  | _, _ => none

/-- A token after a value. -/
def stepAfter (value : Json) : List Frame → Token → Option Reader
  | .array items :: frames, .comma => some ⟨.value, .array (value :: items) :: frames⟩
  | .array items :: frames, .closeBracket => some ⟨.after (.array (value :: items).reverse), frames⟩
  | .member members name :: frames, .comma =>
      some ⟨.name, .object ((name, value) :: members) :: frames⟩
  | .member members name :: frames, .closeBrace =>
      some ⟨.after (.object ((name, value) :: members).reverse), frames⟩
  | _, _ => none

/-- One token. -/
def step (r : Reader) (token : Token) : Option Reader :=
  match r.mode, r.frames, token with
  | .value, frames, token => stepValue frames token
  | .firstItem, .array _ :: frames, .closeBracket => some ⟨.after (.array []), frames⟩
  | .firstItem, frames, token => stepValue frames token
  | .firstName, .object _ :: frames, .closeBrace => some ⟨.after (.object []), frames⟩
  | .firstName, frames, token => stepName frames token
  | .name, frames, token => stepName frames token
  | .colon, frames, .colon => some ⟨.value, frames⟩
  | .colon, _, _ => none
  | .after value, frames, token => stepAfter value frames token

/-- All tokens. -/
def run : Reader → List Token → Option Reader
  | r, [] => some r
  | r, token :: tokens =>
      match r.step token with
      | some r' => run r' tokens
      | none => none

/-- The value that has been read, if nothing is left open. -/
def result? (r : Reader) : Option Json :=
  match r.mode, r.frames with
  | .after value, [] => some value
  | _, _ => none

end Reader

/-- The value of a text. -/
def ofText? (s : String) : Option Json := do
  let tokens ← tokens? s.toList
  let r ← Reader.start.run tokens
  r.result?

end Json

end AssetMarket
