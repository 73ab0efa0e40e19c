import ActionDispatch.Proofs.Handler.Limit
import ActionDispatch.Proofs.Template.Parts

/-!
# What templates show

A template is rewritten before it is rendered, split once more, and its bodies are parsed once more.
None of this can be seen: it shows the texts of its parts, each evaluated once and in order.
-/

set_option autoImplicit false

namespace ActionDispatch

namespace Handler
open Template

def shown (h : Handler) (fuel : Nat) (template : String) (part : Part) :
    Run Event ScriptError (List Char) :=
  part.shown (h.services.settings.xmlEscape && isXml template.toList) h.bindings
    (Template.host h.titles (h.hostAt fuel 0))

theorem preprocess_parts {template : String} {parts : List Part} (xmlEscape : Bool)
    (hparts : segments template.toList = parts.map Part.segment) :
    segments (preprocess xmlEscape template).toList =
      parts.map fun part => part.segment.expanded (xmlEscape && isXml template.toList) := by
  rw [preprocess, String.toList_ofList, segments_expanded, hparts, List.map_map]
  · rfl
  · intro body hbody
    have hclosed := bodies_closed hbody
    rw [hparts] at hbody
    obtain ⟨part, -, hpart⟩ := List.mem_map.mp hbody
    exact part_closed hpart hclosed _

theorem render_parts {h : Handler} {template : String} {parts : List Part} (fuel : Nat)
    (hink : Text.isBlankText template.toList = false)
    (hfree : h.bindings.contains formatterName = false)
    (hparts : segments template.toList = parts.map Part.segment) :
    h.render fuel .script template =
      (Run.forEach (h.shown fuel template) parts >>= fun texts =>
        pure (String.ofList texts.flatten)).mapError EvalError.ofScript := by
  have hshown : ∀ part : Part, renderSegment h.bindings (Template.host h.titles (h.hostAt fuel 0))
      (part.segment.expanded (h.services.settings.xmlEscape && isXml template.toList)) =
        h.shown fuel template part :=
    fun part => part_shown h.titles (h.hostAt fuel 0) hfree _ part
  simp only [render, hink, Bool.false_eq_true, if_false, Template.render, preprocess_parts _ hparts,
    Run.forEach_map, hshown]

/-- A template of accepted scripts, some of them in front of the filter for what does not count as
true, shows the texts of its parts, where the formatter's name is free. The rewritten template does
nothing else: each script is evaluated once, in order, and the first that fails decides the error.
-/
theorem render_shows_parts (h : Handler) (fuel : Nat) (template : String) (parts : List Part)
    (hink : Text.isBlankText template.toList = false)
    (hfree : h.bindings.contains formatterName = false)
    (hparts : segments template.toList = parts.map Part.segment) :
    (h.render fuel .script template =
      (Run.forEach (h.shown fuel template) parts >>= fun texts =>
        pure (String.ofList texts.flatten)).mapError EvalError.ofScript) ∧
    (∀ texts : List (List Char),
      parts.map (fun part => (h.shown fuel template part).outcome) = texts.map .done →
      h.render fuel .script template =
        ⟨parts.flatMap fun part => (h.shown fuel template part).events,
          .done (String.ofList texts.flatten)⟩) ∧
    ∀ before part after error, parts = before ++ part :: after →
      (∀ earlier ∈ before, ∃ text, (h.shown fuel template earlier).outcome = .done text) →
      (h.shown fuel template part).outcome = .failed error →
      h.render fuel .script template =
        ⟨before.flatMap (fun earlier => (h.shown fuel template earlier).events) ++
          (h.shown fuel template part).events, .failed (EvalError.ofScript error)⟩ := by
  have hrun := render_parts fuel hink hfree hparts
  refine ⟨hrun, ?_, ?_⟩
  · intro texts htexts
    rw [hrun, Run.forEach_done htexts, Run.bind_of_done rfl]
    simp [Run.mapError, pure, Run.done]
  · rintro before part after error rfl hbefore hpart
    rw [hrun, Run.forEach_failed hbefore hpart after, Run.bind_of_failed rfl]
    rfl

def writtenBody (e : Script.Expr) (he : e.writable = true)
    (hn : Script.nesting e.words.flatten ≤ 60) : Body where
  text := e.words.flatten
  tree := e
  parses := by
    refine Script.accepted_parses ?_ ?_
    · rw [String.toList_ofList]
      exact Script.spelled_accepted he (Script.spells_flatten e.words)
    · rw [String.toList_ofList]
      exact Nat.le_trans hn (by decide)
  shallow := hn

def documentParts : List Part :=
  [.text "<?xml?>".toList,
    .script (writtenBody (.binary .add (.name "x") (.literal (.string "\x7d"))) (by decide)
      (by decide +kernel)),
    .filtered
      (writtenBody (.binary .or (.name "y") (.literal .null)) (by decide) (by decide +kernel))
      [' '] [' ', 'e'] (by decide) (by decide),
    .script (writtenBody (.name "y") (by decide) (by decide +kernel))]

def documentHandler : Handler :=
  { ofActions 3 [] with bindings := [("x", .string "a<b")] }

theorem render_shows_parts_document :
    documentHandler.render 4 .script "<?xml?>$\x7bx+'\x7d'\x7d$\x7by||null | e\x7d$\x7by\x7d" =
      ⟨[], .done "<?xml?>a&lt;b\x7d"⟩ := by
  have hparts : segments "<?xml?>$\x7bx+'\x7d'\x7d$\x7by||null | e\x7d$\x7by\x7d".toList =
      documentParts.map Part.segment := by decide +kernel
  obtain ⟨-, hvalues, -⟩ := render_shows_parts documentHandler 4
    "<?xml?>$\x7bx+'\x7d'\x7d$\x7by||null | e\x7d$\x7by\x7d" documentParts (by decide)
      (by decide) hparts
  have htexts := hvalues ["<?xml?>".toList, "a&lt;b\x7d".toList, [], []] (by decide +kernel)
  have hquiet : (documentParts.flatMap fun part => (documentHandler.shown 4
      "<?xml?>$\x7bx+'\x7d'\x7d$\x7by||null | e\x7d$\x7by\x7d" part).events) = [] := by
    rw [← List.isEmpty_iff]
    decide +kernel
  rw [htexts, hquiet]
  rfl

end Handler

end ActionDispatch
