import Mathlib.Data.List.Basic
import Shipyard.Conformance.Runner
import Shipyard.Proofs.Json.Taken

/-!
# Plausible tokens

A response gives tokens if its body is an object with an access token that is long enough. Long
enough is a matter of bytes, not of characters: a text of twenty bytes may have as few as five
characters. Where a token is refused as too short, its bytes are counted as well, although the
wording has it that they are characters. Both come to the same for texts of ASCII characters, and a
text with as many characters as are asked for has as many bytes in any case.

The login and the refresh look at a response in the same way.
-/

namespace Shipyard

namespace Text

/-! ## Bytes and characters -/

/-- A character in front of a text brings its own bytes. -/
lemma utf8ByteSize_ofList_cons (c : Char) (cs : List Char) :
    (String.ofList (c :: cs)).utf8ByteSize = c.utf8Size + (String.ofList cs).utf8ByteSize := by
  rw [String.ofList_cons, String.utf8ByteSize_append, String.utf8ByteSize_singleton]

/-- A character has one byte exactly if it is an ASCII character. -/
lemma utf8Size_eq_one_iff {c : Char} : c.utf8Size = 1 ↔ c.toNat < 0x80 := by
  rw [Char.utf8Size_eq_one_iff, UInt32.le_iff_toNat_le, Char.toNat_val]
  exact Nat.lt_succ_iff.symm

/-- Characters have at least as many bytes as there are characters. -/
lemma length_le_utf8ByteSize (cs : List Char) : cs.length ≤ (String.ofList cs).utf8ByteSize := by
  induction cs with
  | nil => exact Nat.zero_le _
  | cons c cs ih =>
    have hpos : 0 < c.utf8Size := c.utf8Size_pos
    rw [utf8ByteSize_ofList_cons, List.length_cons]
    omega

/-- There are as many bytes as characters exactly if all of them are ASCII characters. -/
lemma utf8ByteSize_eq_length_iff (cs : List Char) :
    (String.ofList cs).utf8ByteSize = cs.length ↔ ∀ c ∈ cs, c.toNat < 0x80 := by
  induction cs with
  | nil => simp
  | cons c cs ih =>
    have hpos : 0 < c.utf8Size := c.utf8Size_pos
    have hrest := length_le_utf8ByteSize cs
    rw [utf8ByteSize_ofList_cons, List.length_cons, List.forall_mem_cons, ← ih,
      ← utf8Size_eq_one_iff]
    omega

end Text

/-! ## Members of an object -/

/-- The members of an object that is taken out of a draft stand in the order of their names. -/
lemma Json.Draft.ascending_of_toJson? {room : Nat} {draft : Json.Draft}
    {members : List (String × Json)} (h : draft.toJson? room = some (.object members)) :
    Dictionary.Ascending members := by
  have hcanonical := (taken_of_toJson? h).1
  cases room with
  | zero => exact absurd hcanonical id
  | succ room => exact hcanonical.1

/-- The members of an object that is read stand in the order of their names. -/
lemma Json.ascending_of_parse? {body : String} {members : List (String × Json)}
    (h : Json.parse? body = some (.object members)) : Dictionary.Ascending members := by
  unfold Json.parse? at h
  dsimp only at h
  split at h
  · exact Draft.ascending_of_toJson? h
  · cases h

namespace Conformance

open Http (Request Response)

/-- A body is an object in which a text stands under a name. -/
def Carries (body name text : String) : Prop :=
  ∃ members, Json.parse? body = some (.object members) ∧ (name, Json.text text) ∈ members

/-- What is found under a name is a text that the body carries and that is not empty. -/
lemma filledMember?_eq_some_iff {body name text : String} {document : Json}
    (h : Json.parse? body = some document) :
    filledMember? document name = some text ↔ Carries body name text ∧ text ≠ "" := by
  have hnonempty : (!text.isEmpty) = true ↔ text ≠ "" := by simp
  unfold filledMember? Carries
  rw [Option.filter_eq_some_iff, hnonempty, h]
  refine and_congr_left fun _ => ?_
  cases document with
  | object members =>
    have hascending := Json.ascending_of_parse? h
    have hget : Json.member? name (.object members) = Dictionary.get? members name := rfl
    rw [hget, Option.bind_eq_some_iff]
    constructor
    · rintro ⟨value, hvalue, htext⟩
      cases value with
      | text s =>
        obtain rfl := Option.some.inj htext
        exact ⟨members, rfl, (Dictionary.get?_eq_some_iff hascending).mp hvalue⟩
      | _ => cases htext
    · rintro ⟨others, hobject, hmem⟩
      obtain rfl := Json.object.inj (Option.some.inj hobject)
      exact ⟨.text text, (Dictionary.get?_eq_some_iff hascending).mpr hmem, rfl⟩
  | _ =>
    refine iff_of_false (fun hfound => by cases hfound) ?_
    rintro ⟨members, hobject, -⟩
    cases hobject

/-! ## Tokens -/

/-- A body gives tokens: its access token has enough bytes, and there is a refresh token exactly if
it carries one that is not empty. -/
structure Gives (body : String) (tokens : Tokens) : Prop where
  access : Carries body "access_token" tokens.access
  long : leastTokenSize ≤ tokens.access.utf8ByteSize
  refresh : ∀ token, tokens.refresh = some token ↔ Carries body "refresh_token" token ∧ token ≠ ""

variable {status : Nat} {body access : String} {tokens : Tokens}

/-- An empty text has no bytes, and so a token that is long enough is not empty. -/
lemma ne_empty_of_long {text : String} (h : leastTokenSize ≤ text.utf8ByteSize) : text ≠ "" := by
  rintro rfl
  exact absurd h (by decide)

/-- What a response to the token endpoint comes to if its body carries an access token. -/
lemma ofResponse_of_carries (status : Nat) (h : Carries body "access_token" access)
    (hne : access ≠ "") : ∃ document, Json.parse? body = some document ∧
      Tokens.ofResponse ⟨status, body⟩ =
        if access.utf8ByteSize < leastTokenSize then
          .error (.short status access.utf8ByteSize)
        else .ok ⟨access, filledMember? document "refresh_token"⟩ := by
  obtain ⟨members, hparse, hmem⟩ := h
  have haccess : filledMember? (.object members) "access_token" = some access :=
    (filledMember?_eq_some_iff hparse).mpr ⟨⟨members, hparse, hmem⟩, hne⟩
  refine ⟨.object members, hparse, ?_⟩
  unfold Tokens.ofResponse Response.json?
  simp only [hparse, haccess]

/-- A response gives the tokens that its body gives, whatever its status is. -/
lemma ofResponse_eq_ok_iff : Tokens.ofResponse ⟨status, body⟩ = .ok tokens ↔ Gives body tokens := by
  constructor
  · intro h
    unfold Tokens.ofResponse Response.json? at h
    split at h
    · cases h
    · rename_i document hparse
      split at h
      · cases h
      · rename_i access haccess
        split at h
        · cases h
        · rename_i hlong
          obtain rfl := Except.ok.inj h
          exact
            { access := ((filledMember?_eq_some_iff hparse).mp haccess).1
              long := Nat.le_of_not_lt hlong
              refresh := fun token => filledMember?_eq_some_iff hparse }
  · intro h
    obtain ⟨document, hparse, hresponse⟩ := ofResponse_of_carries status h.access
      (ne_empty_of_long h.long)
    have hrefresh : filledMember? document "refresh_token" = tokens.refresh :=
      Option.ext fun token => (filledMember?_eq_some_iff hparse).trans (h.refresh token).symm
    rw [hresponse, if_neg (Nat.not_lt.mpr h.long), hrefresh]

/-- There are tokens exactly if the body carries an access token that has enough bytes. -/
lemma exists_gives_iff : (∃ tokens, Gives body tokens) ↔
    ∃ access, Carries body "access_token" access ∧ leastTokenSize ≤ access.utf8ByteSize := by
  constructor
  · rintro ⟨tokens, h⟩
    exact ⟨tokens.access, h.access, h.long⟩
  · rintro ⟨access, hcarries, hlong⟩
    obtain ⟨document, hparse, -⟩ := ofResponse_of_carries 0 hcarries (ne_empty_of_long hlong)
    exact ⟨⟨access, filledMember? document "refresh_token"⟩, hcarries, hlong, fun token =>
      filledMember?_eq_some_iff hparse⟩

/-! ## The token endpoint -/

/-- An exchange with a response gives the tokens in the response. -/
lemma tokensOf_ok (request : Request) (response : Response) :
    tokensOf ⟨request, .ok response⟩ = (Tokens.ofResponse response).mapError .token := rfl

/-- An exchange with a response gives the tokens that the body gives. -/
lemma tokensOf_eq_ok_iff {request : Request} :
    tokensOf ⟨request, .ok ⟨status, body⟩⟩ = .ok tokens ↔ Gives body tokens := by
  rw [← @ofResponse_eq_ok_iff status, tokensOf_ok]
  cases Tokens.ofResponse ⟨status, body⟩ <;> simp [Except.mapError]

/-- An exchange with the token endpoint passes exactly if it gives tokens. -/
lemma tokenOutcome_eq_pass_iff {exchange : Http.Exchange} :
    tokenOutcome exchange = .pass ↔ ∃ tokens, tokensOf exchange = .ok tokens := by
  unfold tokenOutcome
  cases tokensOf exchange with
  | ok tokens => simp
  | error reason => simp

/-- Tokens are a matter of bytes. Whatever the status is, the login and the refresh alike take from
a response the tokens that its body gives, and pass exactly if it gives some. A text that has too
few bytes is refused, and reported with the number of its bytes. This is at least the number of its
characters, and it is that number exactly for a text of ASCII characters. So each text with as many
characters as are asked for is taken, but not only these. -/
theorem tokens_go_by_bytes (request : Request) (status : Nat) (body : String) :
    (∀ tokens, tokensOf ⟨request, .ok ⟨status, body⟩⟩ = .ok tokens ↔ Gives body tokens) ∧
      (∀ identity,
        ((loginStep identity ⟨request, .ok ⟨status, body⟩⟩).entry.outcome = .pass ↔
          ∃ tokens, Gives body tokens) ∧
        ((refreshStep identity ⟨request, .ok ⟨status, body⟩⟩).entry.outcome = .pass ↔
          ∃ tokens, Gives body tokens)) ∧
      ((∃ tokens, Gives body tokens) ↔ ∃ access, Carries body "access_token" access ∧
        leastTokenSize ≤ access.utf8ByteSize) ∧
      (∀ access, Carries body "access_token" access → access ≠ "" →
        access.utf8ByteSize < leastTokenSize →
          tokensOf ⟨request, .ok ⟨status, body⟩⟩ =
            .error (.token (.short status access.utf8ByteSize))) ∧
      (∀ access, Carries body "access_token" access → access.length ≤ access.utf8ByteSize ∧
        (access.utf8ByteSize = access.length ↔ ∀ c ∈ access.toList, c.toNat < 0x80)) := by
  refine ⟨fun tokens => tokensOf_eq_ok_iff, fun identity => ⟨?_, ?_⟩, exists_gives_iff,
    fun access haccess hne hshort => ?_, fun access _ => ⟨?_, ?_⟩⟩
  · exact tokenOutcome_eq_pass_iff.trans (exists_congr fun tokens => tokensOf_eq_ok_iff)
  · exact tokenOutcome_eq_pass_iff.trans (exists_congr fun tokens => tokensOf_eq_ok_iff)
  · obtain ⟨document, -, hresponse⟩ := ofResponse_of_carries status haccess hne
    rw [tokensOf_ok, hresponse, if_pos hshort]
    rfl
  · have hle := Text.length_le_utf8ByteSize access.toList
    rwa [String.ofList_toList, String.length_toList] at hle
  · have hiff := Text.utf8ByteSize_eq_length_iff access.toList
    rwa [String.ofList_toList, String.length_toList] at hiff

/-- An access token of three characters is refused as one of six. -/
theorem short_token_is_refused :
    let body := "\x7b\"access_token\":\"ééé\"\x7d"
    let request : Request := ⟨.post, "http://svc/gotrue/token", none, none⟩
    Carries body "access_token" "ééé" ∧ "ééé" ≠ "" ∧ "ééé".utf8ByteSize < leastTokenSize ∧
      tokensOf ⟨request, .ok ⟨200, body⟩⟩ = .error (.token (.short 200 6)) ∧
      "ééé".length ≤ "ééé".utf8ByteSize := by
  intro body request
  have hcarries : Carries body "access_token" "ééé" :=
    ⟨_, by decide +kernel, List.mem_singleton_self _⟩
  obtain ⟨-, -, -, hshort, hsize⟩ := tokens_go_by_bytes request 200 body
  have hless : "ééé".utf8ByteSize < leastTokenSize := by decide
  exact ⟨hcarries, by decide, hless, hshort _ hcarries (by decide) hless, (hsize _ hcarries).1⟩

/-- A token of ten characters is taken, and one of three is refused as one of six. -/
theorem accented_tokens_count_twice :
    Tokens.ofResponse ⟨200, "\x7b\"access_token\":\"éééééééééé\"\x7d"⟩ = .ok ⟨"éééééééééé", none⟩ ∧
      "éééééééééé".length = 10 ∧
      Tokens.ofResponse ⟨200, "\x7b\"access_token\":\"ééé\"\x7d"⟩ = .error (.short 200 6) ∧
      "ééé".length = 3 ∧
      (TokenFault.short 200 6).message =
        "HTTP 200: access_token is 6 chars, expected at least 20" := by
  decide +kernel

end Conformance

end Shipyard
