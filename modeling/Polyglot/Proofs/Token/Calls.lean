import Polyglot.Proofs.Token.Cache
import Polyglot.Proofs.Token.Structure
import Polyglot.VirtualDocument

/-! Engines after any calls. The slot may have been filled under another text of the same version, but
never with anything but the tokens of a text: whatever an engine was asked before, it goes by the
tokens of some text, if not of the one at hand. -/

namespace Polyglot

namespace ParseEngine

/-- What an engine is asked to do. -/
inductive Call where
  | parse (d : Document)
  | synthesize (registry : Registry) (d : Document) (pos : Position)
  | invalidate

/-- The engine after a call. -/
def call (e : ParseEngine) : Call → ParseEngine
  | .parse d => (e.parse d).2
  | .synthesize registry d pos => (Polyglot.synthesize e registry d pos).2
  | .invalidate => e.invalidate

/-- The engine after some calls, one after the other. -/
def run (e : ParseEngine) (calls : List Call) : ParseEngine := calls.foldl call e

/-- The slot, if it is filled, holds the tokens of some text. -/
def Genuine (e : ParseEngine) : Prop :=
  ∀ slot, e.slot = some slot → ∃ text, slot.parsed.tokens = tokenize e.displayMath text

section
variable {e : ParseEngine}

theorem genuine_of_empty (h : e.slot = none) : e.Genuine := by
  intro slot hslot
  cases h.symm.trans hslot

/-- What a parse gives are the tokens of some text. -/
theorem Genuine.exists_tokens (h : e.Genuine) (d : Document) :
    ∃ text, (e.parse d).1.tokens = tokenize e.displayMath text := by
  rcases e.parse_cases d with ⟨_, _, _, hslot, hhit⟩ | ⟨hscan, -⟩
  · rw [hhit]
    exact h _ hslot
  · rw [hscan]
    exact ⟨d.content, rfl⟩

/-- They are made of code blocks that lie one after the other within the lines of the text. -/
theorem Genuine.exists_placed (h : e.Genuine) (d : Document) :
    ∃ cs bs, Markdown.CodeBlock.Placed bs (Text.cut cs).length ∧
      (e.parse d).1.tokens = tokensOf e.displayMath cs bs := by
  obtain ⟨text, htext⟩ := h.exists_tokens d
  rw [htext]
  exact exists_placed_tokenize e.displayMath text

theorem Genuine.parse (h : e.Genuine) (d : Document) : (e.parse d).2.Genuine := by
  rcases e.parse_cases d with ⟨_, _, _, _, hhit⟩ | ⟨-, hmath, hsame | ⟨_, -, hfilled⟩⟩
  · rw [hhit]
    exact h
  · intro slot hslot
    rw [hmath]
    exact h slot (hsame.symm.trans hslot)
  · intro slot hslot
    cases hfilled.symm.trans hslot
    rw [hmath]
    exact ⟨d.content, rfl⟩

theorem Genuine.call (h : e.Genuine) (c : Call) : (e.call c).Genuine := by
  cases c with
  | parse d | synthesize registry d pos => exact h.parse d
  | invalidate => exact genuine_of_empty rfl

theorem Genuine.run (h : e.Genuine) (calls : List Call) : (e.run calls).Genuine := by
  induction calls generalizing e with
  | nil => exact h
  | cons c calls ih => exact ih (h.call c)

end

end ParseEngine

end Polyglot
