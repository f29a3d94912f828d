import Recovery.Json.Draft
/-!
# Reading JSON text

The tokens of a text drive a machine whose stack holds the arrays and objects that are still open.
It never fails: where the text breaks off, what is open is closed with the damage that stands
there.
-/
set_option autoImplicit false

namespace Recovery

namespace Json

inductive Frame where
  | array (done : List Draft)
  | object (done : List (Option String × Draft)) (name : Option String)

inductive Waiting where
  | value
  /-- Just after an opening bracket: a value or the closing one. -/
  | valueOrClose
  | name
  /-- Just after an opening brace: a name or the closing one. -/
  | nameOrClose
  | colon (name : Option String)
  /-- After a value: a comma or the closing bracket or brace. -/
  | more

inductive Reading where
  /-- `fields` are those read so far of an object that waits for a name. -/
  | open (stack : List Frame) (fields : List (Option String × Draft)) (waiting : Waiting)
  | finished (value : Draft)

namespace Reading

def start : Reading := .open [] [] .value

def place (value : Draft) : List Frame → Reading
  | [] => .finished value
  | .array done :: stack => .open (.array (value :: done) :: stack) [] .more
  | .object done name :: stack => .open (.object ((name, value) :: done) name :: stack) [] .more

def ofAtom : Option Json → Draft
  | some j => Draft.ofJson j
  | none => .garbled

def ofText : Option String → Draft
  | some s => .string s
  | none => .garbled

def value (stack : List Frame) : Token → Except Damage Reading
  | .atom v => .ok (place (ofAtom v) stack)
  | .text s => .ok (place (ofText s) stack)
  | .openArray => .ok (.open (.array [] :: stack) [] .valueOrClose)
  | .openObject => .ok (.open stack [] .nameOrClose)
  | .brokenText damage | .brokenAtom damage => .error damage
  | _ => .error .stray

def name (stack : List Frame) (fields : List (Option String × Draft)) :
    Token → Except Damage Reading
  | .text s => .ok (.open stack fields (.colon s))
  | .brokenText damage => .error damage
  | .brokenAtom damage => .error ⟨.malformed, .malformed, damage.reading⟩
  | _ => .error .stray

def step : Reading → Token → Except Damage Reading
  | .finished _, _ => .error .stray
  | .open stack fields waiting, token =>
    match waiting, token with
    | .valueOrClose, .closeArray =>
      match stack with
      | .array done :: stack => .ok (place (.array done.reverse none) stack)
      | _ => .error .stray
    | .value, _ | .valueOrClose, _ => value stack token
    | .nameOrClose, .closeObject => .ok (place (.object [] none) stack)
    | .name, _ | .nameOrClose, _ => name stack fields token
    | .colon s, .colon => .ok (.open (.object fields s :: stack) [] .value)
    | .more, .comma =>
      match stack with
      | .array done :: stack => .ok (.open (.array done :: stack) [] .value)
      | .object done _ :: stack => .ok (.open stack done .name)
      | [] => .error .stray
    | .more, .closeArray =>
      match stack with
      | .array done :: stack => .ok (place (.array done.reverse none) stack)
      | _ => .error .stray
    | .more, .closeObject =>
      match stack with
      | .object done _ :: stack => .ok (place (.object done.reverse none) stack)
      | _ => .error .stray
    | _, _ => .error .stray

def unwind (damage : Damage) : Draft → List Frame → Draft
  | value, [] => value
  | value, .array done :: stack =>
    unwind damage (.array (value :: done).reverse (some damage)) stack
  | value, .object done name :: stack =>
    unwind damage (.object ((name, value) :: done).reverse (some damage)) stack

def stop (damage : Damage) : Reading → Draft
  | .finished _ => .broken damage
  | .open stack fields waiting =>
    match waiting, stack with
    | .nameOrClose, _ => unwind damage (.object [] (some damage)) stack
    | .name, _ =>
      unwind damage (.object fields.reverse (some { damage with choosing := .malformed })) stack
    | .colon s, _ =>
      unwind damage (.object ((s, .broken damage) :: fields).reverse (some damage)) stack
    | .more, .array done :: stack =>
      unwind damage (.array done.reverse (some damage)) stack
    | .more, .object done _ :: stack =>
      unwind damage (.object done.reverse (some damage)) stack
    | _, _ => unwind damage (.broken damage) stack

def run (reading : Reading) : List Token → Draft
  | [] =>
    match reading with
    | .finished value => value
    | .open _ _ _ => reading.stop .cut
  | token :: tokens =>
    match reading.step token with
    | .ok reading => reading.run tokens
    | .error damage => reading.stop damage

end Reading

def Draft.ofText (text : String) : Draft :=
  (Reading.start.run (Token.all text.toList)).limit Draft.depth

end Json

end Recovery
