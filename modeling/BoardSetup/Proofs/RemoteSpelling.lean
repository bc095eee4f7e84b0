import BoardSetup.Proofs.MakefileLine
import BoardSetup.Sdk

/-!
# Either spelling of a remote

`remoteMatches` looks in a `git remote -v` listing for the needle of a URL: the URL without
surrounding blanks, then without every trailing `/`, then without one trailing `.git`. Each of
the three steps keeps a contiguous part of its text, so the needle lies inside the URL without its
leading blanks, and inside the URL. A URL with `.git` added ends in `t`, which neither the trim nor
the slash strip touches, and the last step takes the `.git` off again: its needle is the URL
without its leading blanks. A listing that holds either spelling of a URL therefore holds the
needles of both, and both spellings match it.

Main statement: `remoteMatches_either_spelling`.
-/

namespace BoardSetup

section Ends

variable {α : Type} (p : α → Bool)

theorem dropWhile_reverse_isPrefix (l : List α) : (l.reverse.dropWhile p).reverse <+: l := by
  have h := List.reverse_prefix.2 (List.dropWhile_suffix p : l.reverse.dropWhile p <:+ l.reverse)
  rwa [List.reverse_reverse] at h

theorem dropWhile_reverse_of_last {l : List α} {c : α} (hc : p c = false) :
    ((l ++ [c]).reverse.dropWhile p).reverse = l ++ [c] := by
  rw [List.reverse_append, List.reverse_singleton, List.singleton_append,
    List.dropWhile_cons_of_neg (by simp [hc]), List.reverse_cons, List.reverse_reverse]

theorem dropWhile_append_of_head {xs ys : List α} {c : α} (hc : p c = false) :
    (xs ++ c :: ys).dropWhile p = xs.dropWhile p ++ c :: ys := by
  rw [List.dropWhile_append]
  split_ifs with hnil
  · rw [List.isEmpty_iff.1 hnil, List.dropWhile_cons_of_neg (by simp [hc]), List.nil_append]
  · rfl

end Ends

theorem dropWhile_reverse_git (p : Char → Bool) (hp : p 't' = false) (v : String) :
    ((v ++ ".git").toList.reverse.dropWhile p).reverse = (v ++ ".git").toList := by
  have hv : (v ++ ".git").toList = (v.toList ++ ['.', 'g', 'i']) ++ ['t'] := by simp
  rw [hv]
  exact dropWhile_reverse_of_last p hp

namespace Text

theorem trimStart_suffix (s : String) : (trimStart s).toList <:+ s.toList := by
  rw [trimStart, String.toList_ofList]
  exact List.dropWhile_suffix _

theorem trimEnd_isPrefix (s : String) : (trimEnd s).toList <+: s.toList := by
  rw [trimEnd, String.toList_ofList]
  exact dropWhile_reverse_isPrefix _ _

theorem trim_append_git (s : String) : trim (s ++ ".git") = trimStart s ++ ".git" := by
  have hfront : trimStart (s ++ ".git") = trimStart s ++ ".git" := by
    apply String.toList_inj.1
    have hs : (s ++ ".git").toList = s.toList ++ '.' :: ['g', 'i', 't'] := by simp
    rw [trimStart, String.toList_ofList, hs, dropWhile_append_of_head isBlank (by decide),
      String.toList_append, trimStart, String.toList_ofList]
    rfl
  rw [trim, hfront, trimEnd, dropWhile_reverse_git isBlank (by decide), String.ofList_toList]

end Text

theorem dropTrailingSlashes_isPrefix (s : String) : (dropTrailingSlashes s).toList <+: s.toList := by
  rw [dropTrailingSlashes, String.toList_ofList]
  exact dropWhile_reverse_isPrefix _ _

theorem dropTrailingSlashes_append_git (s : String) :
    dropTrailingSlashes (s ++ ".git") = s ++ ".git" := by
  rw [dropTrailingSlashes, dropWhile_reverse_git (· == '/') (by decide), String.ofList_toList]

theorem remoteNeedle_eq (url : String) :
    remoteNeedle url =
      if ".git".toList <:+ (dropTrailingSlashes (Text.trim url)).toList then
        String.ofList ((dropTrailingSlashes (Text.trim url)).toList.take
          ((dropTrailingSlashes (Text.trim url)).length - 4))
      else dropTrailingSlashes (Text.trim url) := by
  simp only [remoteNeedle, ← String.endsWith_toSlice, String.Slice.endsWith_string_iff,
    String.copy_toSlice]

theorem remoteNeedle_isPrefix (url : String) :
    (remoteNeedle url).toList <+: (Text.trimStart url).toList := by
  have hu : (dropTrailingSlashes (Text.trim url)).toList <+: (Text.trimStart url).toList :=
    (dropTrailingSlashes_isPrefix _).trans (Text.trimEnd_isPrefix _)
  rw [remoteNeedle_eq]
  split_ifs
  · rw [String.toList_ofList]
    exact (List.take_prefix _ _).trans hu
  · exact hu

theorem remoteNeedle_append_git (url : String) :
    remoteNeedle (url ++ ".git") = Text.trimStart url := by
  have hlen : (Text.trimStart url ++ ".git").length - 4 = (Text.trimStart url).toList.length := by
    rw [String.length_append, String.length_toList, show ".git".length = 4 by decide]
    omega
  rw [remoteNeedle_eq, Text.trim_append_git, dropTrailingSlashes_append_git,
    if_pos (by simp), hlen, String.toList_append, List.take_left, String.ofList_toList]

theorem remoteMatches_iff (remotes url : String) :
    remoteMatches remotes url = true ↔
      remoteNeedle url ≠ "" ∧ (remoteNeedle url).toList <:+: remotes.toList := by
  simp [remoteMatches, Settings.contains_iff]

/-- A listing that holds a URL in either spelling matches both spellings, and a listing matches a
URL only when it holds the URL's needle. -/
theorem remoteMatches_either_spelling (remotes url : String) :
    (remoteNeedle url ≠ "" →
      url.toList <:+: remotes.toList ∨ (url ++ ".git").toList <:+: remotes.toList →
      remoteMatches remotes url = true ∧ remoteMatches remotes (url ++ ".git") = true) ∧
    (remoteMatches remotes url = true ↔
      remoteNeedle url ≠ "" ∧ (remoteNeedle url).toList <:+: remotes.toList) := by
  refine ⟨fun hne hin => ?_, remoteMatches_iff remotes url⟩
  -- the `.git` spelling holds the plain one, and every needle lies inside the plain one
  have hurl : url.toList <:+: remotes.toList := by
    rcases hin with h | h
    · exact h
    · rw [String.toList_append] at h
      exact (List.prefix_append _ _).isInfix.trans h
  have hstart : (Text.trimStart url).toList <:+: remotes.toList :=
    (Text.trimStart_suffix url).isInfix.trans hurl
  have hstart_ne : Text.trimStart url ≠ "" := by
    intro h
    apply hne
    have hp := remoteNeedle_isPrefix url
    rw [h, String.toList_empty, List.prefix_nil, String.toList_eq_nil_iff] at hp
    exact hp
  refine ⟨(remoteMatches_iff _ _).2 ⟨hne, (remoteNeedle_isPrefix url).isInfix.trans hstart⟩,
    (remoteMatches_iff _ _).2 ?_⟩
  rw [remoteNeedle_append_git]
  exact ⟨hstart_ne, hstart⟩

/-- A URL with a blank in front and a `/` at the end, listed with `.git` added: both spellings
match, the plain one by `https://host/sdk` and the other by the URL less its blank. -/
theorem remoteMatches_either_spelling_padded :
    remoteNeedle " https://host/sdk/" ≠ "" ∧
      (" https://host/sdk/" ++ ".git").toList <:+: "origin https://host/sdk/.git (fetch)\n".toList ∧
      remoteMatches "origin https://host/sdk/.git (fetch)\n" " https://host/sdk/" = true ∧
      remoteMatches "origin https://host/sdk/.git (fetch)\n" (" https://host/sdk/" ++ ".git") =
        true := by
  have hne : remoteNeedle " https://host/sdk/" ≠ "" := by
    rw [remoteNeedle_eq]
    decide
  have hin : (" https://host/sdk/" ++ ".git").toList <:+:
      "origin https://host/sdk/.git (fetch)\n".toList :=
    ⟨"origin".toList, " (fetch)\n".toList, by decide⟩
  exact ⟨hne, hin, (remoteMatches_either_spelling _ _).1 hne (.inr hin)⟩

end BoardSetup
