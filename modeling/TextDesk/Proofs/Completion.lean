import Mathlib.Data.String.Basic
import TextDesk.Completion
import TextDesk.Proofs.Diagnosis

/-! # What completion offers

Keywords are offered while the first word of a line is typed, and the line is cut by counting bytes.  Main
statement `completions_sound_and_complete`: whatever stands around the cursor, the keywords offered are
those that start with what is typed, and each makes a line that starts with this keyword.
-/

namespace TextDesk

namespace Completion

/-! ## Lines cut at bytes -/

/-- As many bytes of a line as its front has are the front. -/
theorem extract_front (a b : String) :
    String.Pos.Raw.extract (a ++ b) 0 ⟨a.utf8ByteSize⟩ = a := by
  have h := String.extract_of_valid [] a.toList b.toList
  rw [List.nil_append, String.utf8Len_nil, Nat.zero_add, String.utf8Len_toList,
    ← String.toList_append, String.ofList_toList, String.ofList_toList] at h
  exact h

/-- The bytes of a line behind its front are those of the rest. -/
theorem extract_back (a b : String) :
    String.Pos.Raw.extract (a ++ b) ⟨a.utf8ByteSize⟩ (a ++ b).rawEndPos = b := by
  have h := String.extract_of_valid a.toList b.toList []
  rw [List.append_nil, String.utf8Len_toList, String.utf8Len_toList, ← String.toList_append,
    String.ofList_toList, String.ofList_toList, ← String.utf8ByteSize_append] at h
  exact h

/-- A replacement takes the place of the middle of a line. -/
theorem replaceBytes_append (a b c replacement : String) :
    replaceBytes (a ++ b ++ c) a.utf8ByteSize (a ++ b).utf8ByteSize replacement
      = a ++ replacement ++ c := by
  have hfront : String.Pos.Raw.extract (a ++ b ++ c) 0 ⟨a.utf8ByteSize⟩ = a := by
    rw [String.append_assoc]
    exact extract_front a (b ++ c)
  rw [replaceBytes, hfront, extract_back]

/-! ## What is offered -/

variable {head blanks typed tail keyword : String}

/-- What stands before the cursor: blanks, and what is typed of the line behind them. -/
structure Typed (head blanks typed : String) : Prop where
  eq_append : head = blanks ++ typed
  blank : ∀ c ∈ blanks.toList, isBlank c = true
  front : ∀ c ∈ typed.toList.head?, isBlank c = false

theorem exists_typed (head : String) : ∃ blanks typed, Typed head blanks typed := by
  refine ⟨.ofList (head.toList.takeWhile isBlank), .ofList (head.toList.dropWhile isBlank),
    ?_, ?_, ?_⟩
  · rw [← String.ofList_append, List.takeWhile_append_dropWhile, String.ofList_toList]
  · rw [String.toList_ofList]
    exact List.all_eq_true.1 List.all_takeWhile
  · rw [String.toList_ofList]
    exact head_dropWhile isBlank head.toList

/-- The keywords that start with what is typed, in any ASCII case. -/
def startingWith (typed : String) : List String :=
  CommandSet.standard.keywords.filter fun keyword =>
    (lowered typed.toList).isPrefixOf keyword.toList

/-- The keywords that are offered between `head` and `tail`. -/
def offered (head tail : String) : List String :=
  (candidates (head ++ tail) head.utf8ByteSize).2.map Candidate.display

/-- Nothing is offered behind the first word; in it the part that is replaced starts behind the blanks. -/
theorem candidates_eq (h : Typed head blanks typed) (tail : String) :
    candidates (head ++ tail) head.utf8ByteSize
      = if typed.toList.any isBlank then (head.utf8ByteSize, [])
        else (blanks.utf8ByteSize,
          (startingWith typed).map fun keyword => ⟨keyword, keyword ++ " "⟩) := by
  have hword : trimStart head.toList = typed.toList := by
    rw [h.eq_append, String.toList_append, trimStart_append h.blank h.front]
  have hstart : head.utf8ByteSize - typed.utf8ByteSize = blanks.utf8ByteSize := by
    rw [h.eq_append, String.utf8ByteSize_append]
    omega
  simp only [candidates, extract_front, hword, String.ofList_toList, hstart, startingWith]

/-- What is offered behind blanks are the keywords that start with what is typed. -/
theorem offered_eq (h : Typed head blanks typed) (tail : String) :
    offered head tail = if typed.toList.any isBlank then [] else startingWith typed := by
  rw [offered, candidates_eq h]
  split
  · rfl
  · simp [Function.comp_def]

/-- The keywords offered are those that start with what is typed, if that is no more than one word. -/
theorem mem_offered_iff (h : Typed head blanks typed) :
    keyword ∈ offered head tail
      ↔ keyword ∈ CommandSet.standard.keywords
        ∧ (∀ c ∈ typed.toList, isBlank c = false) ∧ lowered typed.toList <+: keyword.toList := by
  rw [offered_eq h]
  by_cases hblank : typed.toList.any isBlank = true
  · have hno : ¬ ∀ c ∈ typed.toList, isBlank c = false := by simpa using hblank
    rw [if_pos hblank]
    simp [hno]
  · have hall : ∀ c ∈ typed.toList, isBlank c = false := by simpa using hblank
    rw [if_neg hblank, startingWith, List.mem_filter, List.isPrefixOf_iff_prefix]
    exact and_congr_right fun _ => (and_iff_right hall).symm

/-- The keywords offered stand in the order of the command set. -/
theorem sublist_offered (head tail : String) :
    (offered head tail).Sublist CommandSet.standard.keywords := by
  rcases exists_typed head with ⟨blanks, typed, h⟩
  rw [offered_eq h]
  split
  · exact List.nil_sublist _
  · exact List.filter_sublist

/-- Accepting a keyword puts it and a space in the place of what is typed. -/
theorem completions_eq (h : Typed head blanks typed) (tail : String) :
    completions head tail
      = (offered head tail).map fun keyword => blanks ++ keyword ++ " " ++ tail := by
  have hline (replacement : String) :
      replaceBytes (head ++ tail) blanks.utf8ByteSize head.utf8ByteSize replacement
        = blanks ++ replacement ++ tail := by
    rw [h.eq_append]
    exact replaceBytes_append blanks typed tail replacement
  rw [offered_eq h]
  unfold completions
  simp only [candidates_eq h]
  split
  · rfl
  · simp [hline, String.append_assoc]

/-! ## The lines that are made -/

/-- A line that starts with a word and a space has that word in front of its words. -/
theorem lineWords_append_word (hblank : ∀ c ∈ blanks.toList, isBlank c = true)
    (hkeyword : IsWord keyword.toList) (tail : String) :
    lineWords (blanks ++ keyword ++ " " ++ tail) = keyword :: lineWords tail := by
  have hfront : BlankFront (' ' :: tail.toList) := by
    rintro c ⟨⟩
    exact isBlank_space
  have hline : (blanks ++ keyword ++ " " ++ tail).toList
      = blanks.toList ++ (keyword.toList ++ ' ' :: tail.toList) := by
    simp
  rw [lineWords, hline, words_append_of_blank hblank, words_append hkeyword hfront,
    words_cons_of_isBlank isBlank_space, List.map_cons, String.ofList_toList, lineWords]

/-- A line whose first word selects a grammar is not diagnosed as an unknown command. -/
theorem diagnose_ne_unknownCommand {set : CommandSet} {line : String} {rest : List String}
    {g : Grammar} (hline : lineWords line = keyword :: rest) (hg : set.select? keyword = some g) :
    set.diagnose line ≠ .unknownCommand := by
  have hkey : ¬ set.LacksKeyword (lineWords line) := by
    rw [hline, CommandSet.lacksKeyword_cons_iff, hg]
    exact Option.some_ne_none g
  rcases CommandSet.exists_mistake_of_not_lacksKeyword hkey with ⟨expected, found, hmistake⟩
  rw [hmistake]
  exact Diagnosis.noConfusion

/-- Behind blanks the keywords that start with what is typed, in any ASCII case, are offered in order, and
none if that holds a blank.  Accepting one puts it and a space in the place of what is typed; whatever stands
behind the cursor, the keyword is the first word of the line that is made and selects its grammar, so the
line is not diagnosed as an unknown command. -/
theorem completions_sound_and_complete (head tail : String) :
    ∃ blanks typed, Typed head blanks typed
      ∧ (∀ k, k ∈ offered head tail ↔ k ∈ CommandSet.standard.keywords
        ∧ (∀ c ∈ typed.toList, isBlank c = false) ∧ lowered typed.toList <+: k.toList)
      ∧ (offered head tail).Sublist CommandSet.standard.keywords
      ∧ completions head tail = (offered head tail).map (fun k => blanks ++ k ++ " " ++ tail)
      ∧ ∀ k ∈ offered head tail,
        lineWords (blanks ++ k ++ " " ++ tail) = k :: lineWords tail
          ∧ (∃ g ∈ CommandSet.standard.grammars, g.keyword? = some k
            ∧ CommandSet.standard.select? k = some g)
          ∧ CommandSet.standard.diagnose (blanks ++ k ++ " " ++ tail) ≠ .unknownCommand := by
  rcases exists_typed head with ⟨blanks, typed, h⟩
  refine ⟨blanks, typed, h, fun k => mem_offered_iff h, sublist_offered head tail,
    completions_eq h tail, ?_⟩
  intro k hk
  have hkeyword : k ∈ CommandSet.standard.keywords := (mem_offered_iff h).1 hk |>.1
  have hline := lineWords_append_word h.blank
    (CommandSet.isWord_of_mem_keywords CommandSet.isKeyed_standard hkeyword) tail
  rcases CommandSet.exists_select?_of_mem_keywords CommandSet.isKeyed_standard hkeyword with
    ⟨g, hg, hgk, hselect⟩
  exact ⟨hline, ⟨g, hg, hgk, hselect⟩, diagnose_ne_unknownCommand hline hselect⟩

/-- Behind an ideographic space `P` is completed in the middle of a line. -/
theorem completions_sound_and_complete_behind_wide_blank :
    offered "\u3000P" "rint é" = ["print"]
      ∧ completions "\u3000P" "rint é" = ["\u3000print rint é"]
      ∧ CommandSet.standard.diagnose "\u3000print rint é" ≠ .unknownCommand := by
  have hoffered : offered "\u3000P" "rint é" = ["print"] := by decide +kernel
  have hline : completions "\u3000P" "rint é" = ["\u3000print rint é"] := by decide +kernel
  rcases completions_sound_and_complete "\u3000P" "rint é" with ⟨blanks, typed, -, -, -, hmade, hread⟩
  rw [hline, hoffered] at hmade
  have hsame : "\u3000print rint é" = blanks ++ "print" ++ " " ++ "rint é" := by simpa using hmade
  rw [hsame]
  refine ⟨hoffered, by rw [hline, hsame], (hread "print" (by simp [hoffered])).2.2⟩

end Completion

end TextDesk
