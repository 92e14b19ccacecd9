import LanguageShell.Rendering

/-!
What a rendering does with the depth. A rendering comes back to the depth where it has begun, also
if it fails, so what it gives depends on the room that is left there and on nothing that has been
rendered before. For documents this is compared with a text and a list of failures that are computed
from the document and the room alone.
-/

namespace LanguageShell

variable {α β : Type}

/-! ### Renderings that come back -/

/-- Whether the rendering ends at the depth where it begins, with the given outcome. -/
def RenderM.Yields (rendering : RenderM α) (depth : Nat) (outcome : Except Fault α) : Prop :=
  rendering.run.run depth = (outcome, depth)

namespace RenderM

variable {rendering : RenderM α} {depth : Nat} {outcome : Except Fault α}

theorem Yields.result_eq (h : rendering.Yields 0 outcome) : rendering.result = outcome :=
  congrArg Prod.fst h

theorem yields_pure (a : α) (depth : Nat) : (pure a : RenderM α).Yields depth (.ok a) :=
  rfl

theorem Yields.bind {next : α → RenderM β} {after : α → Except Fault β}
    (h : rendering.Yields depth outcome) (hnext : ∀ a, (next a).Yields depth (after a)) :
    (rendering >>= next).Yields depth (outcome >>= after) := by
  unfold Yields at h ⊢
  rw [ExceptT.run_bind, StateT.run_bind, h]
  cases outcome with
  | error fault => rfl
  | ok a => exact hnext a

theorem Yields.map (h : rendering.Yields depth outcome) (f : α → β) :
    (rendering >>= fun a => pure (f a)).Yields depth (outcome.map f) := by
  have hbind := h.bind fun a => yields_pure (f a) depth
  cases outcome <;> exact hbind

theorem yields_mapM {render : α → RenderM β} {outcome : α → Except Fault β}
    (h : ∀ item, (render item).Yields depth (outcome item)) (items : List α) :
    (items.mapM render).Yields depth (items.mapM outcome) := by
  induction items with
  | nil => exact yields_pure [] depth
  | cons item items ih =>
      simp only [List.mapM_cons]
      exact (h item).bind fun text => ih.bind fun texts => yields_pure (text :: texts) depth

end RenderM

/-- The text in parentheses, if its level is not allowed. -/
def enclosed (maxLevel level : Int) (text : String) : String :=
  if maxLevel < level then "(" ++ text ++ ")" else text

namespace Renderer

variable {renderer : Renderer} {depth : Nat}

theorem yields_nest_of_no_room (h : renderer.maxDepth ≤ depth) (maxLevel level : Int)
    (render : RenderM String) :
    (renderer.nest maxLevel level render).Yields depth (.ok renderer.ellipsis) := by
  simp only [RenderM.Yields, nest, ExceptT.run_mk, StateT.run, if_pos h]

theorem yields_nest_of_room (hroom : depth < renderer.maxDepth) {render : RenderM String}
    {outcome : Except Fault String} (h : render.Yields (depth + 1) outcome)
    (maxLevel level : Int) :
    (renderer.nest maxLevel level render).Yields depth
      (outcome.map (enclosed maxLevel level)) := by
  simp only [RenderM.Yields, StateT.run] at h
  simp only [RenderM.Yields, nest, ExceptT.run_mk, StateT.run, if_neg (Int.not_le.mpr hroom), h]
  rfl

theorem yields_item (hroom : depth < renderer.maxDepth) {render : RenderM String}
    {outcome : Except Fault String} (h : render.Yields (depth + 1) outcome) :
    (renderer.nest topLevel 0 render).Yields depth outcome := by
  have henclosed : outcome.map (enclosed topLevel 0) = outcome := by
    cases outcome <;> rfl
  rw [← henclosed]
  exact yields_nest_of_room hroom h topLevel 0

theorem yields_sequence {items : List α} {render : α → RenderM String}
    {outcome : α → Except Fault String}
    (h : ∀ item, (renderer.nest topLevel 0 (render item)).Yields depth (outcome item))
    (separator : String) :
    (renderer.sequence items render separator).Yields depth
      ((items.mapM outcome).map ((separator ++ " ").intercalate ·)) :=
  (RenderM.yields_mapM h items).map _

theorem yields_sequence_of_no_room (h : renderer.maxDepth ≤ depth) (items : List α)
    (render : α → RenderM String) (separator : String) :
    (renderer.sequence items render separator).Yields depth
      (.ok ((separator ++ " ").intercalate (items.map fun _ => renderer.ellipsis))) := by
  have hall : items.mapM (fun _ => (.ok renderer.ellipsis : Except Fault String)) =
      .ok (items.map fun _ => renderer.ellipsis) := List.mapM_pure
  have hsequence := @yields_sequence _ renderer depth items render _
    (fun item => yields_nest_of_no_room h topLevel 0 (render item)) separator
  rwa [hall] at hsequence

/-- The number of levels that are rendered at a depth. -/
def room (renderer : Renderer) (depth : Nat) : Nat :=
  (renderer.maxDepth - depth).toNat

theorem room_eq_zero (h : renderer.maxDepth ≤ depth) : renderer.room depth = 0 := by
  unfold room
  omega

theorem room_eq_succ (h : depth < renderer.maxDepth) :
    renderer.room depth = renderer.room (depth + 1) + 1 := by
  unfold room
  omega

end Renderer

/-! ### Documents -/

namespace Doc

/-- The value, unless there are failures; then the first of them. -/
def barring (failures : List String) (a : α) : Except Fault α :=
  match failures with
  | [] => .ok a
  | message :: _ => .error (.refused message)

theorem barring_map (failures : List String) (a : α) (f : α → β) :
    (barring failures a).map f = barring failures (f a) := by
  cases failures <;> rfl

theorem yields_cons {first : RenderM α} {rest : RenderM (List α)} {depth : Nat}
    {failures others : List String} {a : α} {as : List α}
    (hfirst : first.Yields depth (barring failures a))
    (hrest : rest.Yields depth (barring others as)) :
    (do return (← first) :: (← rest) : RenderM (List α)).Yields depth
      (barring (failures ++ others) (a :: as)) := by
  have hall := hfirst.bind fun a => hrest.bind fun as => RenderM.yields_pure (a :: as) depth
  cases failures with
  | nil => cases others <;> exact hall
  | cons message failures => exact hall

mutual

/-- The text of a document where there is room for so many levels. -/
def written (ellipsis : String) : Nat → Doc → String
  | _, .text s => s
  | room, .concat parts => String.join (writtenAll ellipsis room parts)
  | 0, .sequence items separator => (separator ++ " ").intercalate (items.map fun _ => ellipsis)
  | room + 1, .sequence items separator =>
    (separator ++ " ").intercalate (writtenAll ellipsis room items)
  | 0, .nested .. => ellipsis
  | room + 1, .nested maxLevel level body => enclosed maxLevel level (body.written ellipsis room)
  | _, .broken _ => ""

def writtenAll (ellipsis : String) (room : Nat) : List Doc → List String
  | [] => []
  | doc :: rest => doc.written ellipsis room :: writtenAll ellipsis room rest

end

mutual

/-- What is wrong with the parts for which there is room, from left to right. -/
def failures : Nat → Doc → List String
  | _, .text _ => []
  | room, .concat parts => failuresAll room parts
  | 0, .sequence .. => []
  | room + 1, .sequence items _ => failuresAll room items
  | 0, .nested .. => []
  | room + 1, .nested _ _ body => body.failures room
  | _, .broken message => [message]

def failuresAll (room : Nat) : List Doc → List String
  | [] => []
  | doc :: rest => doc.failures room ++ failuresAll room rest

end

def outcome (ellipsis : String) (room : Nat) (doc : Doc) : Except Fault String :=
  barring (doc.failures room) (doc.written ellipsis room)

variable (renderer : Renderer)

theorem renderItems_eq (items : List Doc) :
    renderItems renderer items =
      items.mapM fun item => renderer.nest Renderer.topLevel 0 (item.render renderer) := by
  induction items with
  | nil => rfl
  | cons item items ih => rw [renderItems, ih, List.mapM_cons]

theorem render_sequence (items : List Doc) (separator : String) :
    (sequence items separator).render renderer =
      renderer.sequence items (render renderer) separator := by
  rw [render, renderItems_eq, Renderer.sequence]

mutual

theorem yields_render : ∀ (doc : Doc) (depth : Nat),
    (doc.render renderer).Yields depth (doc.outcome renderer.ellipsis (renderer.room depth))
  | .text s, depth => by
      simp only [render, outcome, written, failures]
      exact RenderM.yields_pure s depth
  | .broken message, depth => by
      simp only [render, outcome, written, failures]
      rfl
  | .concat parts, depth => by
      simp only [render, outcome, written, failures]
      rw [← barring_map]
      exact (yields_renderAll parts depth).map String.join
  | .sequence items separator, depth => by
      obtain hroom | hroom := Int.lt_or_le depth renderer.maxDepth
      · rw [Renderer.room_eq_succ hroom]
        simp only [render, outcome, written, failures]
        rw [← barring_map]
        exact (yields_renderItems items depth hroom).map _
      · rw [render_sequence, Renderer.room_eq_zero hroom]
        simp only [outcome, written, failures]
        exact Renderer.yields_sequence_of_no_room hroom items _ separator
  | .nested maxLevel level body, depth => by
      obtain hroom | hroom := Int.lt_or_le depth renderer.maxDepth
      · rw [Renderer.room_eq_succ hroom]
        simp only [render, outcome, written, failures]
        rw [← barring_map]
        exact Renderer.yields_nest_of_room hroom (yields_render body (depth + 1)) maxLevel level
      · rw [Renderer.room_eq_zero hroom]
        simp only [render, outcome, written, failures]
        exact Renderer.yields_nest_of_no_room hroom maxLevel level _

theorem yields_renderAll : ∀ (docs : List Doc) (depth : Nat),
    (renderAll renderer docs).Yields depth
      (barring (failuresAll (renderer.room depth) docs)
        (writtenAll renderer.ellipsis (renderer.room depth) docs))
  | [], depth => by
      simp only [renderAll, failuresAll, writtenAll]
      exact RenderM.yields_pure [] depth
  | doc :: rest, depth => by
      simp only [renderAll, failuresAll, writtenAll]
      exact yields_cons (yields_render doc depth) (yields_renderAll rest depth)

theorem yields_renderItems : ∀ (docs : List Doc) (depth : Nat), depth < renderer.maxDepth →
    (renderItems renderer docs).Yields depth
      (barring (failuresAll (renderer.room (depth + 1)) docs)
        (writtenAll renderer.ellipsis (renderer.room (depth + 1)) docs))
  | [], depth, _ => by
      simp only [renderItems, failuresAll, writtenAll]
      exact RenderM.yields_pure [] depth
  | doc :: rest, depth, hroom => by
      have hitem := Renderer.yields_item hroom (yields_render doc (depth + 1))
      simp only [renderItems, failuresAll, writtenAll]
      exact yields_cons hitem (yields_renderItems rest depth hroom)

end

theorem renderInTurn_eq (depth : Nat) (docs : List Doc) :
    renderInTurn renderer depth docs =
      docs.map (outcome renderer.ellipsis (renderer.room depth)) := by
  induction docs with
  | nil => rfl
  | cons doc rest ih =>
      have hdoc : (doc.render renderer).run.run depth = _ := yields_render renderer doc depth
      rw [renderInTurn, hdoc, List.map_cons, ← ih]

end Doc

/-- The depth after a rendering is the one before it, and the outcome is that of the document and
the room that is left: the text in which an ellipsis stands for what is too deep, or the first of
the failures of the parts that are not. What is too deep is not rendered, whatever it is. So each of
the documents that one renderer renders in turn has the outcome that it has alone. -/
theorem rendering_depends_on_room_only (renderer : Renderer) :
    (∀ (doc : Doc) (depth : Nat), (doc.render renderer).run.run depth =
      (doc.outcome renderer.ellipsis (renderer.room depth), depth)) ∧
    (∀ (items : List Doc) (separator : String), (Doc.sequence items separator).render renderer =
      renderer.sequence items (Doc.render renderer) separator) ∧
    (∀ depth : Nat, renderer.maxDepth ≤ depth → ∀ (maxLevel level : Int) (render : RenderM String),
      (renderer.nest maxLevel level render).run.run depth = (.ok renderer.ellipsis, depth)) ∧
    (∀ (depth : Nat) (docs : List Doc), Doc.renderInTurn renderer depth docs =
      docs.map fun doc => ((doc.render renderer).run.run depth).1) ∧
    ∀ docs : List Doc, Doc.renderInTurn renderer 0 docs =
      docs.map fun doc => (doc.render renderer).result := by
  have hturn : ∀ (depth : Nat) (docs : List Doc), Doc.renderInTurn renderer depth docs =
      docs.map fun doc => ((doc.render renderer).run.run depth).1 := by
    intro depth docs
    rw [Doc.renderInTurn_eq]
    refine List.map_congr_left fun doc _ => ?_
    exact (congrArg Prod.fst (Doc.yields_render renderer doc depth)).symm
  refine ⟨Doc.yields_render renderer, Doc.render_sequence renderer, ?_, hturn, hturn 0⟩
  intro depth hroom maxLevel level render
  exact Renderer.yields_nest_of_no_room hroom maxLevel level render

/-- A failure leaves no trace in the next text, and one that is too deep does not occur. -/
theorem rendering_after_failure :
    let renderer : Renderer := ⟨1, "…"⟩
    let failing : Doc := .nested 0 1 (.broken "failure")
    let listing : Doc := .sequence [failing, .concat [.text "x", failing]] ","
    Doc.renderInTurn renderer 0 [failing, listing, .nested 0 1 listing] =
      [.error (.refused "failure"), .ok "…, x…", .ok "(…, …)"] ∧
    (listing.render renderer).run.run 0 = (.ok "…, x…", 0) ∧
    (renderer.nest 0 1 (failing.render renderer)).run.run 1 = (.ok "…", 1) := by
  intro renderer failing listing
  obtain ⟨hrender, -, hdeep, hturn, -⟩ := rendering_depends_on_room_only renderer
  refine ⟨?_, ?_, hdeep 1 (by decide) 0 1 _⟩
  · rw [hturn]
    simp only [hrender]
    rfl
  · rw [hrender]
    rfl

end LanguageShell
