/-!
# Views

What a page shows, as a tree of elements and texts. An element that can be clicked carries what its
click does. An element goes by its class, or by its tag if it has none.
-/

namespace NodeLink

/-- A view whose clicks are described by `β`. -/
inductive View (β : Type) where
  | text (s : String)
  | element (tag : String) (attributes : List (String × String)) (onClick : Option β)
      (children : List (View β))
deriving Inhabited

namespace View

variable {β : Type}

def nameOf (tag : String) (attributes : List (String × String)) : String :=
  (attributes.lookup "class").getD tag

mutual

/-- All texts in the order of the document, each with the name of its innermost element. -/
def texts (name : String) : View β → List (String × String)
  | .text s => [(name, s)]
  | .element tag attributes _ children => textsOf (nameOf tag attributes) children

def textsOf (name : String) : List (View β) → List (String × String)
  | [] => []
  | v :: rest => texts name v ++ textsOf name rest

end

mutual

/-- What the clicks on elements of a name do, in the order of the document. -/
def clicks (name : String) : View β → List β
  | .text _ => []
  | .element tag attributes onClick children =>
    (if nameOf tag attributes = name then onClick.toList else []) ++ clicksOf name children

def clicksOf (name : String) : List (View β) → List β
  | [] => []
  | v :: rest => clicks name v ++ clicksOf name rest

end

/-! ## Elements -/

def block (tag cls : String) (children : List (View β)) : View β :=
  .element tag [("class", cls)] none children

def clickable (tag cls : String) (action : β) (children : List (View β)) : View β :=
  .element tag [("class", cls)] (some action) children

def button (caption : String) (action : β) : View β :=
  .element "button" [] (some action) [.text caption]

end View
end NodeLink
