import DonationSite.Proofs.Json.Location
import DonationSite.Proofs.Vat.Answer.Settled

/-!
# Failures are settled where they are reported

A text that is no answer is refused for what stands before a place in it, and the failure tells that
place: whatever follows there, the text is refused in the same way.

## Key results

- `decode_error_settled`: the failure depends on no byte behind the one it points to
-/

namespace DonationSite.Vat

open Json
open Text.Percent (bytesOf)

/-- The bytes of a text are those of its characters one after the other. -/
theorem bytesOf_eq_flatMap (text : String) :
    bytesOf text = text.toList.flatMap String.utf8EncodeChar := by
  conv_lhs => rw [← String.ofList_toList (s := text)]
  exact Text.Percent.bytesOf_ofList _

/-- Decoding fails where reading the whole text does, at the line and column of what was left. -/
theorem decode_eq_error_iff {text : String} {e : Json.Error} :
    Answer.decode text = .error e ↔
      ∃ failure, readWhole text.toList = .error failure ∧ e = failure.locate text.toList := by
  unfold Answer.decode
  cases readWhole text.toList with
  | ok answer => simp
  | error failure => simp [eq_comm]

/-- A failure points to a place in the text. -/
theorem unread_le_of_readWhole_eq_error {text : List Char} {failure : Failure}
    (h : readWhole text = .error failure) : failure.unread ≤ byteLength text ∧
      (failure.problem.isUnfinished = true → failure.unread = 0) := by
  have hsettled := readWhole_settles (.nothing text text)
  dsimp only at hsettled
  rw [h] at hsettled
  exact ⟨hsettled.within, hsettled.atEnd rfl⟩

/-- A failure at a place within bytes that agree is a failure of both texts. -/
theorem readWhole_eq_error_of_agree {n : Nat} {cs ds : List Char} {failure : Failure}
    (h : readWhole cs = .error failure) (hagree : Agree n cs ds)
    (hlt : byteLength cs < failure.unread + n) :
    ∃ failure', readWhole ds = .error failure' ∧ failure'.problem = failure.problem ∧
      byteLength ds - failure'.unread = byteLength cs - failure.unread := by
  have hsettled := readWhole_settles hagree
  dsimp only at hsettled
  rw [h] at hsettled
  have halike := hsettled.alike hlt
  -- The other text is not accepted, since what is settled is settled alike.
  match hds : readWhole ds with
  | .ok _ =>
    rw [hds] at halike
    cases halike
  | .error failure' =>
    rw [hds] at halike
    cases halike with
    | error problem hlength hlength' => exact ⟨_, rfl, rfl, by simp only; omega⟩

/-- Where decoding a text fails, the failure points to a place in the text. If the text ends too
early, that is its end. Any other failure inside of the text is settled there: every text with the
same bytes up to and with the one that follows the place is refused for the same problem at the same
line and column. -/
theorem decode_error_settled {body : String} {e : Json.Error} (h : Answer.decode body = .error e) :
    (∃ i, e.location.StandsFor (bytesOf body) i) ∧
      ∀ i, e.location.StandsFor (bytesOf body) i →
        (e.problem.isUnfinished = true → i = (bytesOf body).length) ∧
        (e.problem.isUnfinished = false → i < (bytesOf body).length →
          ∀ other : String, (bytesOf other).take (i + 1) = (bytesOf body).take (i + 1) →
            Answer.decode other = .error e) := by
  obtain ⟨failure, hread, rfl⟩ := decode_eq_error_iff.1 h
  obtain ⟨hwithin, hatEnd⟩ := unread_le_of_readWhole_eq_error hread
  have hlength := length_flatMap_utf8EncodeChar body.toList
  have hplace := Location.ofOffset_standsFor
    (Nat.sub_le (byteLength body.toList) failure.unread)
  rw [bytesOf_eq_flatMap body]
  -- A line and a column stand for one place, so it is the one that the decoder counted.
  refine ⟨⟨_, hplace⟩, fun i hi => ?_⟩
  obtain rfl := hplace.unique hi
  rw [hlength]
  constructor
  · intro hunfinished
    rw [hatEnd hunfinished, Nat.sub_zero]
  · intro _ hlt other htake
    rw [bytesOf_eq_flatMap other] at htake
    have hagree := Agree.of_take_eq (by omega) htake.symm
    obtain ⟨failure', hread', hproblem, hoffset⟩ :=
      readWhole_eq_error_of_agree hread hagree (by omega)
    refine decode_eq_error_iff.2 ⟨failure', hread', ?_⟩
    rw [Failure.locate, Failure.locate, hproblem, hoffset,
      Location.ofOffset_eq_of_take_eq (Nat.le_succ _) htake]

/-- The place may lie inside of a character. After the first two of the three bytes that stand for a
currency sign, the place is behind the first, and another sign that starts like it is refused in the
same way, whatever follows. -/
theorem decode_error_settled_insideCharacter :
    Answer.decode "\n[tru€]" = .error ⟨.noWord, ⟨2, 5⟩⟩ ∧
      Location.StandsFor ⟨2, 5⟩ (bytesOf "\n[tru€]") 6 ∧
      6 < (bytesOf "\n[tru€]").length ∧
      (bytesOf "\n[tru₭, 1").take 7 = (bytesOf "\n[tru€]").take 7 ∧
      Answer.decode "\n[tru₭, 1" = .error ⟨.noWord, ⟨2, 5⟩⟩ := by
  have h : Answer.decode "\n[tru€]" = .error ⟨.noWord, ⟨2, 5⟩⟩ := by rfl
  have hi : Location.StandsFor ⟨2, 5⟩ (bytesOf "\n[tru€]") 6 :=
    ⟨by decide, by decide, by decide⟩
  have hlt : 6 < (bytesOf "\n[tru€]").length := by decide
  have htake : (bytesOf "\n[tru₭, 1").take 7 = (bytesOf "\n[tru€]").take 7 := by decide
  exact ⟨h, hi, hlt, htake, ((decode_error_settled h).2 6 hi).2 rfl hlt _ htake⟩

end DonationSite.Vat
