import BoardSetup.Path.Normal
import Mathlib.Tactic.SplitIfs

/-!
# The lexical normal form

`normalize` evaluates a path's components on a stack and writes the stack back as text. The
stacks it leaves are `Stack.Normal`: names only, over one `..` at the bottom of a relative stack,
since `..` pops whatever was pushed last, a pushed `..` included. Written back and read again,
such a stack gives its own entries, so a second normalization changes nothing, and a path that
starts at the root comes out as the root and the names its parts leave.

Joining runs the base's components and then the offset's (`foldl_components_join`), so the
normal form of a joined path depends on the base only through the base's normal form. The offset
is another matter: a `..` that pops a pushed `..` loses the step it would have climbed from an
absolute base (`normalize_offset_loses_climb`).

Main statements: `normalize_normal_form` and `normalize_join_normalize`.
-/

namespace BoardSetup

/-- Text that reads back as one name: not empty, not `.` or `..`, and free of separators. -/
structure Path.IsName (n : String) : Prop where
  ne_empty : n ≠ ""
  ne_here : n ≠ "."
  ne_up : n ≠ ".."
  no_slash : '/' ∉ n.toList

/-- A component as reading a path yields it: a name is one that reads back as itself. -/
def Component.Read : Component → Prop
  | .name n => Path.IsName n
  | _ => True

namespace Path

/-! ## Parts between separators -/

theorem segments_append_slash (xs ys : List Char) :
    segments (xs ++ '/' :: ys) = segments xs ++ segments ys := by
  simp only [segments, List.splitOn_append_cons_self, List.map_append]

theorem segments_nil : segments [] = [""] := rfl

theorem segments_cons_slash (ys : List Char) : segments ('/' :: ys) = "" :: segments ys :=
  segments_append_slash [] ys

theorem segments_of_slash_not_mem {xs : List Char} (h : '/' ∉ xs) :
    segments xs = [String.ofList xs] := by
  simp only [segments, List.splitOn_eq_singleton h, List.map_cons, List.map_nil]

theorem splitOn_cons_of_ne {c : Char} (hc : c ≠ '/') (cs : List Char) :
    ∃ u us, cs.splitOn '/' = u :: us ∧ (c :: cs).splitOn '/' = (c :: u) :: us := by
  obtain ⟨u, us, hu⟩ := List.exists_cons_of_ne_nil (List.splitOn_ne_nil '/' cs)
  refine ⟨u, us, hu, ?_⟩
  simp only [List.splitOn_cons_eq_if_modifyHead, beq_iff_eq, hc, if_false, hu,
    List.modifyHead_cons]

theorem slash_not_mem_of_mem_segments {cs : List Char} {w : String} (hw : w ∈ segments cs) :
    '/' ∉ w.toList := by
  induction cs generalizing w with
  | nil =>
    rw [segments_nil, List.mem_singleton] at hw
    simp [hw]
  | cons c cs ih =>
    by_cases hc : c = '/'
    · subst hc
      rw [segments_cons_slash, List.mem_cons] at hw
      rcases hw with rfl | hw
      · simp
      · exact ih hw
    · -- the first part gains `c`, the others are those of `cs`
      obtain ⟨u, us, hu, hcu⟩ := splitOn_cons_of_ne hc cs
      have hcs : segments cs = String.ofList u :: us.map String.ofList := by
        simp only [segments, hu, List.map_cons]
      rw [segments, hcu, List.map_cons, List.mem_cons] at hw
      rcases hw with rfl | hw
      · have hu' := ih (w := String.ofList u) (by rw [hcs]; exact List.mem_cons_self)
        rw [String.toList_ofList] at hu' ⊢
        simp [hu', Ne.symm hc]
      · exact ih (by rw [hcs]; exact List.mem_cons_of_mem _ hw)

/-! ## What reading a path yields -/

theorem ofSegment_up : ofSegment ".." = some .up := rfl

theorem ofSegment_name {n : String} (h : IsName n) : ofSegment n = some (.name n) := by
  simp [ofSegment, h.ne_empty, h.ne_here, h.ne_up]

theorem read_of_ofSegment {w : String} {c : Component} (hw : '/' ∉ w.toList)
    (h : ofSegment w = some c) : c.Read := by
  unfold ofSegment at h
  split_ifs at h with h₁ h₂
  · cases h
    trivial
  · cases h
    exact ⟨fun e => h₁ (.inl e), fun e => h₁ (.inr e), h₂, hw⟩

/-- The components that act on a stack, read off a path: the root when the path starts with a
separator, then the component of each part between separators. -/
def steps (p : String) : List Component :=
  (if isAbsolute p then [.root] else []) ++ (segments p.toList).filterMap ofSegment

theorem isAbsolute_iff {p : String} : isAbsolute p = true ↔ ∃ rest, p.toList = '/' :: rest := by
  unfold isAbsolute
  cases p.toList with
  | nil => simp
  | cons c cs =>
    simp only [List.head?_cons, beq_iff_eq, Option.some.injEq, List.cons.injEq, exists_and_left,
      exists_eq', and_true]

theorem isAbsolute_append {x : String} (hx : x ≠ "") (z : String) :
    isAbsolute (x ++ z) = isAbsolute x := by
  obtain ⟨c, cs, hc⟩ := List.exists_cons_of_ne_nil (show x.toList ≠ [] by simpa using hx)
  simp only [isAbsolute, String.toList_append, hc, List.cons_append, List.head?_cons]

theorem components_of_slash {p : String} {rest : List Char} (h : p.toList = '/' :: rest) :
    components p = .root :: (segments rest).filterMap ofSegment := by
  unfold components; rw [h]; rfl

theorem components_of_dot {p : String} {rest : List Char} (h : p.toList = '.' :: rest) :
    components p = if rest = [] ∨ rest.head? = some '/' then
      .here :: (segments rest).filterMap ofSegment
    else (segments ('.' :: rest)).filterMap ofSegment := by
  unfold components; rw [h]; rfl

theorem components_of_other {p : String} {c : Char} {rest : List Char} (h : p.toList = c :: rest)
    (hs : c ≠ '/') (hd : c ≠ '.') :
    components p = (segments (c :: rest)).filterMap ofSegment := by
  unfold components; rw [h]; split
  · rename_i heq; simp only [List.cons.injEq] at heq; exact absurd heq.1 hs
  · rename_i heq; simp only [List.cons.injEq] at heq; exact absurd heq.1 hd
  · rfl

theorem components_here {p : String} {r : List Char} (h : p.toList = '.' :: r)
    (hr : r = [] ∨ r.head? = some '/') : components p = .here :: steps p := by
  rw [components_of_dot h, if_pos hr, steps, isAbsolute, h]
  simp only [List.head?_cons, Option.some.injEq, beq_iff_eq, show ('.' = '/') = False by decide,
    if_false, List.nil_append, List.cons.injEq, true_and]
  rcases hr with rfl | hr
  · rfl
  · obtain ⟨r', rfl⟩ : ∃ r', r = '/' :: r' := by
      cases r with
      | nil => cases hr
      | cons x xs => exact ⟨xs, by simpa using hr⟩
    have hdot : segments ('.' :: '/' :: r') = "." :: segments r' :=
      segments_append_slash ['.'] r'
    simp [segments_cons_slash, hdot, ofSegment]

theorem components_eq_steps {p : String}
    (h : ∀ r, p.toList = '.' :: r → ¬(r = [] ∨ r.head? = some '/')) :
    components p = steps p := by
  unfold steps isAbsolute
  cases hp : p.toList with
  | nil =>
    rw [String.toList_eq_nil_iff.1 hp]
    rfl
  | cons c rest =>
    by_cases hs : c = '/'
    · subst hs
      rw [components_of_slash hp, segments_cons_slash]
      simp [ofSegment]
    by_cases hd : c = '.'
    · subst hd
      rw [components_of_dot hp, if_neg (h rest hp)]
      simp
    · rw [components_of_other hp hs hd]
      simp [hs]

theorem components_cases (p : String) :
    components p = .here :: steps p ∨ components p = steps p := by
  by_cases h : ∃ r, p.toList = '.' :: r ∧ (r = [] ∨ r.head? = some '/')
  · obtain ⟨r, hp, hr⟩ := h
    exact .inl (components_here hp hr)
  · exact .inr (components_eq_steps fun r hp hr => h ⟨r, hp, hr⟩)

theorem foldl_components (p : String) (s : Stack) :
    (components p).foldl Stack.push s = (steps p).foldl Stack.push s := by
  rcases components_cases p with h | h <;> rw [h]
  rfl

theorem steps_read (p : String) : ∀ c ∈ steps p, c.Read := by
  intro c hc
  rw [steps, List.mem_append, List.mem_filterMap] at hc
  rcases hc with hc | ⟨w, hw, hc⟩
  · split at hc
    · rw [List.mem_singleton.1 hc]; trivial
    · cases hc
  · exact read_of_ofSegment (slash_not_mem_of_mem_segments hw) hc

theorem components_read (p : String) : ∀ c ∈ components p, c.Read := by
  rcases components_cases p with h | h <;> rw [h]
  · intro c hc
    rcases List.mem_cons.1 hc with rfl | hc
    · trivial
    · exact steps_read p c hc
  · exact steps_read p

/-! ## Stacks that collapsing leaves -/

section Push

variable (s : Stack)

@[simp] theorem Stack.push_root : s.push .root = ⟨true, []⟩ := rfl

@[simp] theorem Stack.push_here : s.push .here = s := rfl

@[simp] theorem Stack.push_name (n : String) :
    s.push (.name n) = ⟨s.rooted, n :: s.entries⟩ := rfl

@[simp] theorem Stack.push_up_cons (r : Bool) (e : String) (es : List String) :
    Stack.push ⟨r, e :: es⟩ .up = ⟨r, es⟩ := rfl

@[simp] theorem Stack.push_up_rooted : Stack.push ⟨true, []⟩ .up = ⟨true, []⟩ := rfl

@[simp] theorem Stack.push_up_relative : Stack.push ⟨false, []⟩ .up = ⟨false, [".."]⟩ := rfl

end Push

theorem foldl_push_names (ns : List String) (s : Stack) :
    (ns.map .name).foldl Stack.push s = ⟨s.rooted, ns.reverse ++ s.entries⟩ := by
  induction ns generalizing s with
  | nil => rfl
  | cons n ns ih => simp [ih]

/-- The stacks collapsing leaves: names, over one `..` at the bottom of a relative stack. -/
inductive Stack.Normal : Stack → Prop
  | names (rooted : Bool) {ns : List String} :
      (∀ n ∈ ns, IsName n) → Stack.Normal ⟨rooted, ns⟩
  | overUp {ns : List String} : (∀ n ∈ ns, IsName n) → Stack.Normal ⟨false, ns ++ [".."]⟩

theorem Stack.Normal.push {s : Stack} {c : Component} (hs : s.Normal) (hc : c.Read) :
    (s.push c).Normal := by
  cases c with
  | root => exact .names true (by simp)
  | here => exact hs
  | name n =>
    cases hs with
    | names r hns => exact .names r (by simpa using ⟨hc, hns⟩)
    | @overUp ns hns => exact @Stack.Normal.overUp (n :: ns) (by simpa using ⟨hc, hns⟩)
  | up =>
    -- `..` takes the top name off, the `..` at the bottom, or nothing at the root
    cases hs with
    | @names r ns hns =>
      cases ns with
      | nil =>
        cases r
        · exact @Stack.Normal.overUp [] (by simp)
        · exact .names true (by simp)
      | cons n ns => exact .names r fun m hm => hns m (List.mem_cons_of_mem _ hm)
    | @overUp ns hns =>
      cases ns with
      | nil => exact .names false (by simp)
      | cons n ns => exact .overUp fun m hm => hns m (List.mem_cons_of_mem _ hm)

theorem Stack.Normal.foldl {cs : List Component} (hcs : ∀ c ∈ cs, c.Read) {s : Stack}
    (hs : s.Normal) : (cs.foldl Stack.push s).Normal := by
  induction cs generalizing s with
  | nil => exact hs
  | cons c cs ih =>
    rw [List.foldl_cons]
    exact ih (fun d hd => hcs d (List.mem_cons_of_mem _ hd)) (hs.push (hcs c List.mem_cons_self))

theorem normal_collapse (p : String) : (collapse (components p)).Normal :=
  Stack.Normal.foldl (components_read p) (.names false (by simp))

/-! ## Writing a stack back -/

theorem toList_intercalate (L : List String) :
    ("/".intercalate L).toList = ['/'].intercalate (L.map String.toList) := by
  rw [String.toList_intercalate]
  rfl

theorem filterMap_segments_intercalate {L : List String} (hL : ∀ e ∈ L, '/' ∉ e.toList) :
    (segments ("/".intercalate L).toList).filterMap ofSegment = L.filterMap ofSegment := by
  cases L with
  | nil => rfl
  | cons e L =>
    have hsplit : ("/".intercalate (e :: L)).toList.splitOn '/' = (e :: L).map String.toList := by
      rw [toList_intercalate]
      exact List.splitOn_intercalate '/' (by simpa using hL) (by simp)
    simp only [segments, hsplit, List.map_map, Function.comp_def, String.ofList_toList,
      List.map_id']

theorem toList_intercalate_cons (e : String) (L : List String) :
    ∃ t, ("/".intercalate (e :: L)).toList = e.toList ++ t := by
  rw [toList_intercalate]
  cases L with
  | nil => exact ⟨[], by simp⟩
  | cons e' L => exact ⟨_, by rw [List.map_cons, List.map_cons, List.intercalate_cons_cons,
      List.append_assoc]⟩

theorem not_here_of_first {e : String} (he : e ≠ "") (hd : e ≠ ".") (hs : '/' ∉ e.toList)
    (t : List Char) : ∀ r, e.toList ++ t = '.' :: r → ¬(r = [] ∨ r.head? = some '/') := by
  intro r h hr
  obtain ⟨c, cs, hc⟩ := List.exists_cons_of_ne_nil (show e.toList ≠ [] by simpa using he)
  rw [hc, List.cons_append, List.cons.injEq] at h
  obtain ⟨rfl, rfl⟩ := h
  cases cs with
  | nil => exact hd (String.toList_inj.1 hc)
  | cons x xs =>
    have hx : x ≠ '/' := fun h => hs (by simp [hc, h])
    rcases hr with hr | hr
    · cases hr
    · exact hx (by simpa using hr)

theorem isAbsolute_of_first {e : String} (he : e ≠ "") (hs : '/' ∉ e.toList) (t : List Char)
    {p : String} (hp : p.toList = e.toList ++ t) : isAbsolute p = false := by
  rw [← Bool.not_eq_true, isAbsolute_iff]
  rintro ⟨rest, h⟩
  obtain ⟨c, cs, hc⟩ := List.exists_cons_of_ne_nil (show e.toList ≠ [] by simpa using he)
  rw [hp, hc, List.cons_append, List.cons.injEq] at h
  exact hs (by simp [hc, h.1])

theorem components_render {s : Stack}
    (hs : ∀ e ∈ s.entries, e ≠ "" ∧ e ≠ "." ∧ '/' ∉ e.toList) :
    components s.render =
      (if s.rooted then [.root] else []) ++ s.entries.reverse.filterMap ofSegment := by
  obtain ⟨r, es⟩ := s
  have hslash : ∀ e ∈ es.reverse, '/' ∉ e.toList := fun e he =>
    (hs e (List.mem_reverse.1 he)).2.2
  cases r with
  | true =>
    have htext :
        (Stack.render ⟨true, es⟩).toList = '/' :: ("/".intercalate es.reverse).toList := by
      simp [Stack.render]
    rw [components_of_slash htext, filterMap_segments_intercalate hslash]
    rfl
  | false =>
    have htext : (Stack.render ⟨false, es⟩).toList = ("/".intercalate es.reverse).toList := by
      simp [Stack.render]
    -- the text starts with the top entry, which is neither `.` nor empty nor holds a separator
    cases hrev : es.reverse with
    | nil =>
      rw [hrev] at htext
      rw [String.toList_inj.1 htext]
      rfl
    | cons e L =>
      obtain ⟨he, hd, hsl⟩ := hs e (List.mem_reverse.1 (by rw [hrev]; exact List.mem_cons_self))
      obtain ⟨t, ht⟩ := toList_intercalate_cons e L
      rw [hrev, ht] at htext
      rw [components_eq_steps (by rw [htext]; exact not_here_of_first he hd hsl t), steps,
        isAbsolute_of_first he hsl t htext, htext, ← ht, ← hrev,
        filterMap_segments_intercalate hslash]

theorem filterMap_ofSegment_names {ns : List String} (h : ∀ n ∈ ns, IsName n) :
    ns.filterMap ofSegment = ns.map .name := by
  induction ns with
  | nil => rfl
  | cons n ns ih =>
    rw [List.filterMap_cons, ofSegment_name (h n List.mem_cons_self), List.map_cons,
      ih fun m hm => h m (List.mem_cons_of_mem _ hm)]

theorem components_render_names (r : Bool) {ns : List String} (h : ∀ n ∈ ns, IsName n) :
    components (Stack.render ⟨r, ns⟩) =
      (if r then [.root] else []) ++ ns.reverse.map .name := by
  have hplain : ∀ e ∈ ns, e ≠ "" ∧ e ≠ "." ∧ '/' ∉ e.toList := fun e he =>
    ⟨(h e he).ne_empty, (h e he).ne_here, (h e he).no_slash⟩
  rw [components_render hplain, filterMap_ofSegment_names fun n hn => h n (List.mem_reverse.1 hn)]

theorem components_render_overUp {ns : List String} (h : ∀ n ∈ ns, IsName n) :
    components (Stack.render ⟨false, ns ++ [".."]⟩) = .up :: ns.reverse.map .name := by
  have hplain : ∀ e ∈ ns ++ [".."], e ≠ "" ∧ e ≠ "." ∧ '/' ∉ e.toList := by
    intro e he
    rcases List.mem_append.1 he with he | he
    · exact ⟨(h e he).ne_empty, (h e he).ne_here, (h e he).no_slash⟩
    · rw [List.mem_singleton.1 he]
      decide
  rw [components_render hplain, List.reverse_append, List.reverse_singleton, List.singleton_append,
    List.filterMap_cons, ofSegment_up,
    filterMap_ofSegment_names fun n hn => h n (List.mem_reverse.1 hn)]
  rfl

theorem Stack.Normal.collapse_components_render {s : Stack} (hs : s.Normal) :
    collapse (components s.render) = s := by
  cases hs with
  | names r h =>
    rw [components_render_names r h]
    cases r
    · simp only [collapse, Bool.false_eq_true, if_false, List.nil_append, foldl_push_names,
        Stack.empty, List.reverse_reverse, List.append_nil]
    · simp only [collapse, if_true, List.singleton_append, List.foldl_cons, Stack.push_root,
        foldl_push_names, List.reverse_reverse, List.append_nil]
  | overUp h =>
    rw [components_render_overUp h]
    simp only [collapse, List.foldl_cons, Stack.empty, Stack.push_up_relative, foldl_push_names,
      List.reverse_reverse]

theorem Stack.Normal.components_shape {s : Stack} (hs : s.Normal) :
    ∃ (lead : List Component) (ns : List String),
      components s.render = lead ++ ns.map .name ∧ ∀ c ∈ lead, c = .root ∨ c = .up := by
  cases hs with
  | names r h =>
    refine ⟨_, _, components_render_names r h, fun c hc => ?_⟩
    cases r <;> simp_all
  | overUp h => exact ⟨[.up], _, components_render_overUp h, by simp⟩

theorem up_not_mem_after_name {lead xs ys : List Component} {ns : List String} {n : String}
    (hlead : ∀ c ∈ lead, c = .root ∨ c = .up)
    (h : lead ++ ns.map .name = xs ++ .name n :: ys) : Component.up ∉ ys := by
  have hnames : Component.up ∉ ns.map Component.name := by simp
  intro hup
  rcases List.append_eq_append_iff.1 h with ⟨as, -, hns⟩ | ⟨bs, hl, hys⟩
  · exact hnames (by rw [hns]; simp [hup])
  · cases bs with
    | nil => exact hnames (by rw [← List.nil_append (ns.map _), ← hys]; simp [hup])
    | cons b bs =>
      have hb : b = .name n := (List.cons.inj hys).1.symm
      rcases hlead b (by rw [hl]; simp) with h | h <;> rw [hb] at h <;> cases h

theorem normalize_normalize (p : String) : normalize (normalize p) = normalize p := by
  unfold normalize
  rw [(normal_collapse p).collapse_components_render]

/-! ## Paths that start at the root -/

/-- The names left on a path that starts at the root after one more part between separators: an
empty part and `.` leave them, `..` takes the last one off if there is one, and any other part
goes on. -/
def namesAfter (names : List String) (part : String) : List String :=
  if part = "" ∨ part = "." then names
  else if part = ".." then names.dropLast
  else names ++ [part]

theorem Stack.push_up_rooted_tail (es : List String) :
    Stack.push ⟨true, es⟩ .up = ⟨true, es.tail⟩ := by
  cases es <;> rfl

theorem foldl_push_rooted (segs names : List String) :
    (segs.filterMap ofSegment).foldl Stack.push ⟨true, names.reverse⟩ =
      ⟨true, (segs.foldl namesAfter names).reverse⟩ := by
  induction segs generalizing names with
  | nil => rfl
  | cons w ws ih =>
    rw [List.filterMap_cons, List.foldl_cons]
    unfold ofSegment namesAfter
    by_cases h₁ : w = "" ∨ w = "."
    · simp only [if_pos h₁]
      exact ih names
    by_cases h₂ : w = ".."
    · simp only [if_neg h₁, if_pos h₂, List.foldl_cons, Stack.push_up_rooted_tail,
        List.tail_reverse]
      exact ih names.dropLast
    · simp only [if_neg h₁, if_neg h₂, List.foldl_cons, Stack.push_name]
      rw [show w :: names.reverse = (names ++ [w]).reverse by simp]
      exact ih (names ++ [w])

theorem Stack.Normal.names_of_rooted {es : List String} (h : Stack.Normal ⟨true, es⟩) :
    ∀ n ∈ es, IsName n := by
  cases h with
  | names _ h => exact h

section Absolute

variable {p : String} (hp : isAbsolute p = true)
include hp

theorem collapse_of_absolute :
    collapse (components p) = ⟨true, ((segments p.toList).foldl namesAfter []).reverse⟩ := by
  obtain ⟨rest, h⟩ := isAbsolute_iff.1 hp
  rw [collapse, components_of_slash h, List.foldl_cons, Stack.push_root, h, segments_cons_slash,
    List.foldl_cons]
  exact foldl_push_rooted (segments rest) []

theorem normalize_of_absolute :
    normalize p = "/" ++ "/".intercalate ((segments p.toList).foldl namesAfter []) := by
  simp [normalize, collapse_of_absolute hp, Stack.render]

theorem components_normalize_of_absolute :
    components (normalize p) = .root :: ((segments p.toList).foldl namesAfter []).map .name := by
  have hnames := (collapse_of_absolute hp ▸ normal_collapse p).names_of_rooted
  rw [normalize, collapse_of_absolute hp, components_render_names true hnames]
  simp

theorem isAbsolute_normalize : isAbsolute (normalize p) = true := by
  rw [normalize_of_absolute hp, isAbsolute_iff, String.toList_append]
  exact ⟨_, rfl⟩

theorem plain_normalize : ∀ c ∈ components (normalize p), c ≠ .here ∧ c ≠ .up := by
  rw [components_normalize_of_absolute hp]
  simp

end Absolute

/-- The lexical normal form is a fixed point, holds no `.` and no `..` after a name, and for a
path that starts at the root it is the root followed by exactly the names the parts leave: no
`..` at all. -/
theorem normalize_normal_form (p : String) :
    normalize (normalize p) = normalize p ∧
    Component.here ∉ components (normalize p) ∧
    (∀ xs n ys, components (normalize p) = xs ++ .name n :: ys → Component.up ∉ ys) ∧
    (isAbsolute p = true →
      normalize p = "/" ++ "/".intercalate ((segments p.toList).foldl namesAfter []) ∧
      components (normalize p) = .root :: ((segments p.toList).foldl namesAfter []).map .name ∧
      isAbsolute (normalize p) = true ∧ Component.up ∉ components (normalize p)) := by
  obtain ⟨lead, ns, hshape, hlead⟩ := (normal_collapse p).components_shape
  refine ⟨normalize_normalize p, ?_, ?_, fun hp => ?_⟩
  · -- the lead is a root or a `..`, and the rest are names
    rw [normalize, hshape, List.mem_append]
    rintro (h | h)
    · rcases hlead _ h with h | h <;> cases h
    · simp at h
  · intro xs n ys h
    rw [normalize, hshape] at h
    exact up_not_mem_after_name hlead h
  · exact ⟨normalize_of_absolute hp, components_normalize_of_absolute hp,
      isAbsolute_normalize hp, fun hup => (plain_normalize hp _ hup).2 rfl⟩

/-- The normal form of `/a/./b/../../c//`, a path that starts at the root. -/
theorem normalize_normal_form_rooted :
    isAbsolute "/a/./b/../../c//" = true ∧
      normalize "/a/./b/../../c//" =
        "/" ++ "/".intercalate ((segments "/a/./b/../../c//".toList).foldl namesAfter []) ∧
      components (normalize "/a/./b/../../c//") =
        .root :: ((segments "/a/./b/../../c//".toList).foldl namesAfter []).map .name ∧
      isAbsolute (normalize "/a/./b/../../c//") = true ∧
      Component.up ∉ components (normalize "/a/./b/../../c//") :=
  ⟨by decide, (normalize_normal_form "/a/./b/../../c//").2.2.2 (by decide)⟩

/-! ## Joining -/

theorem isAbsolute_join {x : String} (hx : isAbsolute x = true) (y : String) :
    isAbsolute (join x y) = true := by
  have hne : x ≠ "" := by
    rintro rfl
    cases hx
  unfold join
  split
  · rename_i h
    simpa [hne] using h
  · split
    · rw [isAbsolute_append hne, hx]
    · rw [String.append_assoc, isAbsolute_append hne, hx]

theorem steps_join {x y : String} (hx : x ≠ "") (hy : isAbsolute y = false) :
    steps (join x y) = steps x ++ steps y := by
  have hcond : (isAbsolute y || x.isEmpty) = false := by simp [hy, hx]
  unfold join
  rw [if_neg (by simp [hcond])]
  split
  · -- the base already ends in a separator, which stands between the two
    rename_i hend
    obtain ⟨x', hx'⟩ := List.getLast?_eq_some_iff.1 (by simpa [endsInSeparator] using hend)
    simp only [steps, isAbsolute_append hx, String.toList_append, hx', List.append_assoc,
      List.singleton_append, segments_append_slash, segments_nil, List.filterMap_append, hy]
    simp [ofSegment]
  · simp only [steps, String.append_assoc, isAbsolute_append hx, String.toList_append,
      show "/".toList = ['/'] from rfl, List.singleton_append, segments_append_slash,
      List.filterMap_append, hy]
    simp

theorem isAbsolute_of_name {n : String} (h : IsName n) : isAbsolute n = false :=
  isAbsolute_of_first h.ne_empty h.no_slash [] (List.append_nil _).symm

theorem steps_of_name {n : String} (h : IsName n) : steps n = [.name n] := by
  rw [steps, isAbsolute_of_name h, segments_of_slash_not_mem h.no_slash, String.ofList_toList]
  simp [ofSegment_name h]

theorem components_of_absolute {p : String} (hp : isAbsolute p = true) :
    components p = steps p := by
  obtain ⟨rest, h⟩ := isAbsolute_iff.1 hp
  refine components_eq_steps fun r hr => ?_
  rw [h, List.cons.injEq] at hr
  exact absurd hr.1 (by decide)

theorem components_join_relative {x y : String} (hx : isAbsolute x = true)
    (hy : isAbsolute y = false) : components (join x y) = components x ++ steps y := by
  have hne : x ≠ "" := by
    rintro rfl
    cases hx
  rw [components_of_absolute (isAbsolute_join hx y), components_of_absolute hx, steps_join hne hy]

theorem components_join_name {x n : String} (hx : isAbsolute x = true) (hn : IsName n) :
    components (join x n) = components x ++ [.name n] := by
  rw [components_join_relative hx (isAbsolute_of_name hn), steps_of_name hn]

theorem foldl_components_absolute {p : String} (hp : isAbsolute p = true) (s : Stack) :
    (components p).foldl Stack.push s = collapse (components p) := by
  obtain ⟨rest, h⟩ := isAbsolute_iff.1 hp
  rw [collapse, components_of_slash h, List.foldl_cons, List.foldl_cons, Stack.push_root,
    Stack.push_root]

theorem foldl_components_join (x y : String) (s : Stack) :
    (components (join x y)).foldl Stack.push s =
      (components y).foldl Stack.push ((components x).foldl Stack.push s) := by
  by_cases hy : isAbsolute y = true
  · -- the offset replaces the base, and starts the stack afresh
    have hjoin : join x y = y := by simp [join, hy]
    rw [hjoin, foldl_components_absolute hy, foldl_components_absolute hy]
  by_cases hx : x = ""
  · subst hx
    have hjoin : join "" y = y := by simp [join]
    rw [hjoin]
    rfl
  · rw [foldl_components, foldl_components, foldl_components, steps_join hx (by simpa using hy),
      List.foldl_append]

theorem collapse_components_join (x y : String) :
    collapse (components (join x y)) = (components y).foldl Stack.push (collapse (components x)) :=
  foldl_components_join x y _

theorem normalize_join_normalize (a p : String) :
    normalize (join (normalize a) p) = normalize (join a p) := by
  simp only [normalize, collapse_components_join, (normal_collapse a).collapse_components_render]

/-- Putting the offset in normal form first can: `../..` collapses to nothing, as its second `..`
pops the `..` the first pushed, while from `/a/b` it climbs to the root. -/
theorem normalize_offset_loses_climb :
    normalize "../.." = "" ∧ normalize (join "/a/b" "../..") = "/" ∧
      normalize (join (normalize "/a/b") (normalize "../..")) = "/a/b" := by
  decide

end Path

end BoardSetup
