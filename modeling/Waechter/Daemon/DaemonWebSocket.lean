import Waechter.Lib.Text

/-!
# The token of a web socket

The filter of `WDaemonWebSocket` (`Daemon/Communication/DaemonWebSocket.cpp`) looks for `token=`
anywhere in the query of a connection and compares what follows, up to the next ampersand, with the
configured token. It does not look at where a parameter begins.

`lws_hdr_copy` is a parameter: it copies the query into a buffer, when that is large enough.

* `extracted_query`: the filter takes the rest of the first parameter that contains `token=`.
* `authenticates_iff`: what the parameters in front of the one named `token` have to be like for the
  filter to let in exactly who has the token.
-/

namespace Waechter

namespace DaemonWebSocket

open Lib.Text

/-- Texts, one `char` after the other. -/
abbrev Text := List Char

/-! ## The filter -/

/-- `sizeof(QueryBuf)`. -/
def queryBufSize : Nat := 512

/-- What the filter compares with the configured token. -/
def extracted (queryString : Text) : Option Text :=
  (findText "token=".toList queryString).bind fun tokenPos =>
    let tokenStart := tokenPos + 6
    match findFrom '&' queryString tokenStart with
    | some tokenEnd => substr queryString tokenStart (sizeSub tokenEnd tokenStart)
    | none => substr queryString tokenStart queryString.length

/-- `LWS_CALLBACK_FILTER_PROTOCOL_CONNECTION`: whether the connection is accepted. `hdrCopy` is
`lws_hdr_copy` with the size of the buffer, `none` a negative result. -/
def authenticated (hdrCopy : Text → Nat → Option Text) (webSocketAuthToken uriArgs : Text) : Bool :=
  match hdrCopy uriArgs queryBufSize with
  | some queryString =>
    if queryString.length > 0 then extracted queryString = some webSocketAuthToken else false
  | none => false

/-- `lws_hdr_copy` copies the whole header with a zero behind it, or fails. -/
def CopiesHeader (hdrCopy : Text → Nat → Option Text) : Prop :=
  ∀ (header : Text) (size : Nat),
    hdrCopy header size = if header.length < size then some header else none

/-! ## Queries -/

/-- `name=value`. -/
structure Parameter where
  name : Text
  value : Text
  name_plain : '=' ∉ name ∧ '&' ∉ name
  value_plain : '&' ∉ value

def Parameter.text (p : Parameter) : Text := p.name ++ '=' :: p.value

/-- The parameters, separated by ampersands. -/
def query (ps : List Parameter) : Text := ['&'].intercalate (ps.map Parameter.text)

/-- The first parameter whose name is exactly `token`. -/
def tokenParameter (ps : List Parameter) : Option Parameter := ps.find? (·.name = "token".toList)

/-- That parameter has the configured token. -/
def Authorised (webSocketAuthToken : Text) (ps : List Parameter) : Prop :=
  (tokenParameter ps).map (·.value) = some webSocketAuthToken

instance (token : Text) (ps : List Parameter) : Decidable (Authorised token ps) :=
  inferInstanceAs (Decidable (_ = _))

/-- What follows the first `token=` in a parameter: its value when the name ends in `token`. -/
def Parameter.mention (p : Parameter) : Option Text :=
  if "token".toList <:+ p.name then some p.value else afterFirst "token=".toList p.value

/-- What follows `token=` in the first parameter that contains it, of those in front of the one
named `token`. -/
def decoy (ps : List Parameter) : Option Text :=
  (ps.takeWhile (·.name ≠ "token".toList)).findSome? Parameter.mention

/-- No parameter in front of the one named `token` contains `token=`; or what follows it there is
the value of that one; or neither is the configured token. -/
def Undisturbed (webSocketAuthToken : Text) (ps : List Parameter) : Prop :=
  ∀ text ∈ decoy ps, (tokenParameter ps).map (·.value) = some text ∨
    text ≠ webSocketAuthToken ∧ ∀ p ∈ tokenParameter ps, p.value ≠ webSocketAuthToken

/-! ## What the filter takes -/

/-- It takes what follows the first `token=`, up to the next ampersand. -/
theorem extracted_eq (queryString : Text) :
    extracted queryString =
      (afterFirst "token=".toList queryString).map fun after => after.takeWhile (· ≠ '&') := by
  unfold extracted afterFirst
  cases h : findText "token=".toList queryString with
  | none => rfl
  | some tokenPos =>
    have hle : tokenPos + 6 ≤ queryString.length := findText_add_length_le h
    simp only [Option.bind_some, Option.map_some]
    change _ = some ((queryString.drop (tokenPos + 6)).takeWhile _)
    rw [takeWhile_ne_eq, findFrom]
    cases find '&' (queryString.drop (tokenPos + 6)) with
    | none =>
      have hall : (queryString.drop (tokenPos + 6)).length ≤ queryString.length := by simp
      simp only [Option.map_none]
      rw [substr, if_pos hle, List.take_of_length_le hall]
    | some i =>
      simp only [Option.map_some]
      rw [substr, if_pos hle, sizeSub_of_le (Nat.le_add_left _ _), Nat.add_sub_cancel]

theorem Parameter.not_mem_text (p : Parameter) : '&' ∉ p.text := by
  rw [Parameter.text, List.mem_append, List.mem_cons]
  exact not_or_intro p.name_plain.2 (not_or_intro (by decide) p.value_plain)

/-- The name and the value tell where `token=` is. -/
theorem afterFirst_text (p : Parameter) : afterFirst "token=".toList p.text = p.mention :=
  afterFirst_concat (show '=' ∉ "token".toList by decide) p.value p.name_plain.1

/-- What follows `token=` in a parameter is in that parameter. -/
theorem takeWhile_mention {p : Parameter} {after : Text} (h : p.mention = some after) :
    after.takeWhile (· ≠ '&') = after := by
  rw [← afterFirst_text] at h
  refine List.takeWhile_eq_self_iff.mpr fun c hc => decide_eq_true fun hamp => ?_
  exact p.not_mem_text (hamp ▸ mem_of_mem_afterFirst h hc)

/-- **The filter takes the rest of the first parameter with `token=` in it.** -/
theorem extracted_query : ∀ ps : List Parameter,
    extracted (query ps) = ps.findSome? Parameter.mention
  | [] => rfl
  | [p] => by
    have hsingle : query [p] = p.text := by simp [query, List.intercalate]
    rw [extracted_eq, hsingle, afterFirst_text]
    cases h : p.mention with
    | none => rw [List.findSome?_cons, h]; rfl
    | some after => rw [Option.map_some, takeWhile_mention h, List.findSome?_cons, h]
  | p :: p' :: ps => by
    have hrest := extracted_query (p' :: ps)
    have hcons : query (p :: p' :: ps) = p.text ++ '&' :: query (p' :: ps) := by
      simp [query, List.intercalate]
    rw [extracted_eq] at hrest ⊢
    rw [hcons, afterFirst_append (by decide) (by decide), afterFirst_text, List.findSome?_cons]
    cases h : p.mention with
    | none => exact hrest
    | some after =>
      have htake := takeWhile_mention h
      rw [List.takeWhile_eq_self_iff] at htake
      rw [Option.map_some, Option.some_or, Option.map_some, List.takeWhile_append_of_pos htake,
        List.takeWhile_cons_of_neg (by simp), List.append_nil]

/-- The parameter named `token` gives its value. -/
theorem mention_of_name {p : Parameter} (h : p.name = "token".toList) :
    p.mention = some p.value :=
  if_pos (h ▸ List.suffix_refl _)

/-- The parameters in front of the one named `token` come first, then that one. -/
theorem findSome_mention : ∀ ps : List Parameter,
    ps.findSome? Parameter.mention = (decoy ps).or ((tokenParameter ps).map (·.value))
  | [] => rfl
  | p :: ps => by
    unfold decoy tokenParameter
    by_cases hname : p.name = "token".toList
    · rw [List.takeWhile_cons_of_neg (by simp [hname]), List.find?_cons_of_pos (by simp [hname]),
        List.findSome?_cons, mention_of_name hname]
      rfl
    · rw [List.takeWhile_cons_of_pos (by simpa using hname),
        List.find?_cons_of_neg (by simpa using hname), List.findSome?_cons, List.findSome?_cons]
      cases p.mention with
      | none => exact findSome_mention ps
      | some after => rfl

/-! ## Authentication -/

/-- The filter takes the configured token exactly when the parameter named `token` has it. -/
theorem extracted_iff_authorised_iff (webSocketAuthToken : Text) (ps : List Parameter) :
    (extracted (query ps) = some webSocketAuthToken ↔ Authorised webSocketAuthToken ps) ↔
      Undisturbed webSocketAuthToken ps := by
  rw [extracted_query, findSome_mention, Undisturbed, Authorised]
  cases hdecoy : decoy ps with
  | none => simp
  | some text =>
    cases tokenParameter ps with
    | none => simp
    | some p =>
      by_cases htext : text = webSocketAuthToken <;> by_cases hvalue : p.value = webSocketAuthToken
      · simp [htext, hvalue]
      · simp [htext, hvalue]
      · simp [htext, hvalue, Ne.symm htext]
      · simp [htext, hvalue]

variable {hdrCopy : Text → Nat → Option Text}

/-- A query that the buffer holds is looked at. -/
theorem authenticated_eq (hcopy : CopiesHeader hdrCopy) (webSocketAuthToken uriArgs : Text) :
    authenticated hdrCopy webSocketAuthToken uriArgs = true ↔
      uriArgs.length < queryBufSize ∧ extracted uriArgs = some webSocketAuthToken := by
  unfold authenticated
  rw [hcopy]
  by_cases hlength : uriArgs.length < queryBufSize
  · rw [if_pos hlength]
    simp only [hlength, true_and]
    cases uriArgs with
    | nil => simp [extracted, findText]
    | cons c cs => simp
  · rw [if_neg hlength]
    simp [hlength]

/-- **When the filter is right**: in a query below the size of the buffer exactly when no parameter
in front of the one named `token` disturbs it; a longer one it rejects. -/
theorem authenticates_iff (hcopy : CopiesHeader hdrCopy) (webSocketAuthToken : Text)
    (ps : List Parameter) :
    (authenticated hdrCopy webSocketAuthToken (query ps) = true ↔
        Authorised webSocketAuthToken ps) ↔
      if (query ps).length < queryBufSize then Undisturbed webSocketAuthToken ps
      else ∀ p ∈ tokenParameter ps, p.value ≠ webSocketAuthToken := by
  rw [authenticated_eq hcopy]
  split
  · rename_i hlength
    rw [← extracted_iff_authorised_iff, and_iff_right hlength]
  · rename_i hlength
    unfold Authorised
    cases tokenParameter ps <;> simp [hlength]

/-- `lws_hdr_copy` of a header in one piece. -/
def copyHeader (header : Text) (size : Nat) : Option Text :=
  if header.length < size then some header else none

def Parameter.ofTexts (name value : String)
    (h : ('=' ∉ name.toList ∧ '&' ∉ name.toList) ∧ '&' ∉ value.toList) : Parameter :=
  ⟨name.toList, value.toList, h.1, h.2⟩

/-- A parameter in front of the right one contains `token=`, with another text behind it. -/
theorem authenticates_decoy :
    CopiesHeader copyHeader ∧
      let ps := [Parameter.ofTexts "url" "a?token=x" (by decide),
        Parameter.ofTexts "token" "y" (by decide)]
      (authenticated copyHeader "secret".toList (query ps) = true ↔ Authorised "secret".toList ps) :=
  ⟨fun _ _ => rfl, (authenticates_iff (fun _ _ => rfl) _ _).mpr <| by
    rw [if_pos (by decide)]
    exact fun text htext => .inr ⟨by cases htext; decide, by decide⟩⟩

/-- A parameter whose name ends in `token` is let in, and keeps the right one out. -/
theorem authenticated_by_other_name :
    CopiesHeader copyHeader ∧
      (let ps := [Parameter.ofTexts "mytoken" "secret" (by decide)]
      authenticated copyHeader "secret".toList (query ps) = true ∧
        ¬ Authorised "secret".toList ps) ∧
      let ps := [Parameter.ofTexts "mytoken" "x" (by decide),
        Parameter.ofTexts "token" "secret" (by decide)]
      authenticated copyHeader "secret".toList (query ps) = false ∧
        Authorised "secret".toList ps := by
  refine ⟨fun _ _ => rfl, ?_, ?_⟩
  · decide
  · decide

end DaemonWebSocket

end Waechter
