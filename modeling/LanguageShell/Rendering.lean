import LanguageShell.Fault

/-!
Rendering of nested terms. A term has a level, and each place a highest level that can stand
there without parentheses. Terms nested too deeply are replaced by an ellipsis and not rendered.

A rendering carries the depth that it has reached. `Renderer.nest` goes one deeper for the term it
renders and comes back, also when that fails.
-/

namespace LanguageShell

/-- The depth to which terms are rendered, and what stands for those beyond it. -/
structure Renderer where
  maxDepth : Int := 42
  ellipsis : String := "..."
deriving DecidableEq, Repr

abbrev RenderM := ExceptT Fault (StateM Nat)

def Renderer.topLevel : Int := 9999

namespace Renderer

/-- Renders a term of the given level where `maxLevel` is the highest one allowed. -/
def nest (renderer : Renderer) (maxLevel level : Int) (render : RenderM String) : RenderM String :=
  ExceptT.mk fun depth =>
    if renderer.maxDepth ≤ depth then (.ok renderer.ellipsis, depth)
    else
      let (outcome, inner) := render.run (depth + 1)
      (outcome.map fun text => if maxLevel < level then s!"({text})" else text, inner - 1)

/-- Renders the items one after another, with a separator and a space between them. -/
def sequence (renderer : Renderer) (items : List α) (render : α → RenderM String)
    (separator : String) : RenderM String := do
  let texts ← items.mapM fun item => renderer.nest topLevel 0 (render item)
  return (separator ++ " ").intercalate texts

end Renderer

def RenderM.result (rendering : RenderM α) : Except Fault α :=
  (rendering.run.run 0).1

/-! ### Documents -/

/-- A term to be rendered: text, terms side by side, a sequence, a term at a level, or one that
cannot be rendered. -/
inductive Doc where
  | text (text : String)
  | concat (parts : List Doc)
  | sequence (items : List Doc) (separator : String)
  | nested (maxLevel level : Int) (body : Doc)
  | broken (message : String)

namespace Doc

mutual

def render (renderer : Renderer) : Doc → RenderM String
  | .text s => return s
  | .concat parts => return String.join (← renderAll renderer parts)
  | .sequence items separator =>
    return (separator ++ " ").intercalate (← renderItems renderer items)
  | .nested maxLevel level body => renderer.nest maxLevel level (body.render renderer)
  | .broken message => throw (.refused message)

def renderAll (renderer : Renderer) : List Doc → RenderM (List String)
  | [] => return []
  | doc :: rest => return (← doc.render renderer) :: (← renderAll renderer rest)

/-- Renders the items of a sequence in their order, each one level deeper. -/
def renderItems (renderer : Renderer) : List Doc → RenderM (List String)
  | [] => return []
  | doc :: rest =>
    return (← renderer.nest Renderer.topLevel 0 (doc.render renderer)) ::
      (← renderItems renderer rest)

end

/-- Renders documents in turn with one renderer; the depth that one leaves is where the next one
starts. -/
def renderInTurn (renderer : Renderer) (depth : Nat) : List Doc → List (Except Fault String)
  | [] => []
  | doc :: rest =>
    let (outcome, next) := (doc.render renderer).run.run depth
    outcome :: renderInTurn renderer next rest

end Doc

end LanguageShell
