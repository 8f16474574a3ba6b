import ShaderLens.Text.Basic

/-!
# Keys

What the keys of the viewer do.
-/

namespace ShaderLens

/-- What a key asks the viewer to do. -/
inductive Action
  | scrollUp
  | scrollDown
  | pageUp
  | pageDown
  | top
  | bottom
  | switchFocus
  | quit
  | none
  deriving DecidableEq, Repr

inductive Key
  | char (c : Char)
  | escape
  | tab
  | backTab
  | up
  | down
  | left
  | right
  | pageUp
  | pageDown
  | home
  | last
  | enter
  | backspace
  | delete
  | insert
  | function (number : Nat)
  | null
  | capsLock
  | scrollLock
  | numLock
  | printScreen
  | pause
  | menu
  | keypadBegin
  /-- A key that plays, stops or changes the volume. -/
  | media
  /-- A modifier pressed by itself. -/
  | modifier
  deriving DecidableEq, Repr

namespace Key

def charAction (c : Char) : Action :=
  if c = 'q' then .quit
  else if c = 'j' then .scrollDown
  else if c = 'k' then .scrollUp
  else if c = 'g' then .top
  else if c = 'G' then .bottom
  else .none

/-- What a key asks for. Most keys ask for nothing. -/
def action : Key → Action
  | char c => charAction c
  | escape => .quit
  | tab => .switchFocus
  | backTab => .switchFocus
  | down => .scrollDown
  | up => .scrollUp
  | pageDown => .pageDown
  | pageUp => .pageUp
  | home => .top
  | last => .bottom
  | _ => .none

/-- Names of keys. -/
def names : List (String × Key) :=
  [("Esc", escape), ("Tab", tab), ("BackTab", backTab), ("Up", up), ("Down", down),
    ("Left", left), ("Right", right), ("PageUp", pageUp), ("PageDown", pageDown), ("Home", home),
    ("End", last), ("Enter", enter), ("Backspace", backspace), ("Delete", delete),
    ("Insert", insert), ("F1", function 1), ("F12", function 12), ("Null", null),
    ("CapsLock", capsLock), ("Menu", menu)]

/-- The key with a name; a single character names the key that types it. -/
def ofName? : Text → Option Key
  | [c] => some (char c)
  | name => (names.find? (·.1.toList = name)).map (·.2)

end Key

end ShaderLens
