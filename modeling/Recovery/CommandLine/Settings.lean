import Recovery.CommandLine.Parameter
/-!
# Settings

The values of the parameters that were given, by argument or environment. A parameter that is not
there was not given; one that can be given many times has its values in the order they came in.
-/
set_option autoImplicit false

namespace Recovery.CommandLine

abbrev Settings := List (String × List String)

namespace Settings

def values? (s : Settings) (name : String) : Option (List String) := s.lookup name

def has (s : Settings) (name : String) : Bool := (s.values? name).isSome

def add (s : Settings) (name : String) (values : List String) : Settings :=
  (name, (s.values? name).getD [] ++ values) :: s

theorem values?_add_self (s : Settings) (name : String) (values : List String) :
    (s.add name values).values? name = some ((s.values? name).getD [] ++ values) := by
  simp [values?, add]

theorem values?_add_of_ne (s : Settings) {name other : String} (values : List String)
    (h : other ≠ name) : (s.add name values).values? other = s.values? other := by
  simp only [values?, add, List.lookup_cons]
  split
  · rename_i hb
    exact absurd (beq_iff_eq.1 hb) h
  · rfl

/-- One more use of a parameter, which only one that takes many values allows a second time. -/
def put (s : Settings) (p : Parameter) (values : List String) : Except Refusal Settings := do
  if p.arity != .many && s.has p.name then throw (.repeated p.name)
  values.forM (p.form.check p.name)
  return s.add p.name values

/-! ## Reading them -/

def list (s : Settings) (name : String) : List String := (s.values? name).getD []

def text? (s : Settings) (name : String) : Option String := (s.list name).getLast?

def text (s : Settings) (name : String) (fallback : String) : String :=
  (s.text? name).getD fallback

def number (s : Settings) (name : String) (most fallback : Nat) : Nat :=
  ((s.text? name).bind (numberUpTo? most)).getD fallback

def instant? (s : Settings) (name : String) : Option Instant :=
  (s.text? name).bind Instant.read?

def switch (s : Settings) (name : String) : Bool := s.text? name == some Parameter.given

end Settings

end Recovery.CommandLine
