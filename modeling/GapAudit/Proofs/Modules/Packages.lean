import Mathlib.Data.List.Basic
import GapAudit.Proofs.Dependencies.Runtime
import GapAudit.Proofs.Modules.Specifiers
import GapAudit.Proofs.Path.Components

/-!
# Packages of specifiers

A specifier that is neither a path nor an alias and has no scheme names a package: the segment at
its head, or two if the first one is a scope (`Modules.packageOf?_eq_some_iff`). So a package is a
specifier of its own, and what is asked for inside it belongs to it (`Modules.packageName?_exact`).
-/

namespace GapAudit.Modules

open Text

/-- Whether a specifier may name a package: it is no path, no alias begins it, and it has no
scheme. -/
structure MayName (s : List Char) : Prop where
  notPoint : s.head? ≠ some '.'
  notRoot : s.head? ≠ some '/'
  notAlias : ∀ start ∈ aliasBeginnings, ¬start.toList <+: s
  noScheme : ':' ∉ s

/-- The form of a package: a name, or a scope and a name. -/
inductive IsPackage : List Char → Prop
  | name {name : List Char} (hat : name.head? ≠ some '@') (hname : '/' ∉ name) : IsPackage name
  | inScope {scope name : List Char} (hat : scope.head? = some '@') (hscope : '/' ∉ scope)
    (hname : '/' ∉ name) (hne : name ≠ []) : IsPackage (scope ++ '/' :: name)

/-- Whether a text is empty or goes on with a slash, so that a segment before it ends there. -/
def EndsSegment (below : List Char) : Prop :=
  ∀ c ∈ below.head?, c = '/'

variable {s p below : List Char}

lemma head?_of_begins {c : Char} (hp : p <+: s) (h : p.head? = some c) : s.head? = some c := by
  obtain ⟨rest, rfl⟩ := hp
  rw [List.head?_append, h, Option.some_or]

lemma MayName.of_begins (h : MayName s) (hp : p <+: s) : MayName p where
  notPoint := mt (head?_of_begins hp) h.notPoint
  notRoot := mt (head?_of_begins hp) h.notRoot
  notAlias := fun start hmem hstart => h.notAlias start hmem (hstart.trans hp)
  noScheme := fun hmem => h.noScheme (hp.subset hmem)

/-- An alias begins with a name and ends at its only slash. -/
lemma exists_of_mem_aliasBeginnings {start : String} (h : start ∈ aliasBeginnings) :
    ∃ name, start.toList = name ++ ['/'] ∧ '/' ∉ name := by
  have hall : ∀ start ∈ aliasBeginnings,
      start.toList = start.toList.dropLast ++ ['/'] ∧ '/' ∉ start.toList.dropLast := by decide
  exact ⟨_, hall start h⟩

/-- An alias that begins something inside a package begins with the package. -/
lemma prefix_of_alias {start : String} (h : start ∈ aliasBeginnings)
    (hstart : start.toList <+: p ++ '/' :: below) : start.toList <+: p ++ ['/'] := by
  obtain ⟨name, heq, hname⟩ := exists_of_mem_aliasBeginnings h
  have hwhole : p ++ ['/'] <+: p ++ '/' :: below := by simp
  apply List.prefix_of_prefix_length_le hstart hwhole
  by_contra hlong
  -- The slash behind the package would stand in the name of the alias.
  have hinside : p ++ ['/'] <+: name := by
    have hprefix : p ++ ['/'] <+: start.toList :=
      List.prefix_of_prefix_length_le hwhole hstart (by omega)
    rw [heq] at hprefix hlong
    apply List.prefix_of_prefix_length_le hprefix (List.prefix_append name ['/'])
    simp only [List.length_append, List.length_singleton] at hlong ⊢
    omega
  exact hname (hinside.subset (by simp))

lemma endsSegment_slash (below : List Char) : EndsSegment ('/' :: below) := by
  simp [EndsSegment]

lemma slash_not_mem_firstSegment (s : List Char) : '/' ∉ firstSegment s := by
  intro hmem
  simpa using List.mem_takeWhile_imp hmem

lemma firstSegment_append_of_endsSegment (hp : '/' ∉ p) (hbelow : EndsSegment below) :
    firstSegment (p ++ below) = p := by
  have hspan : spanWhile (· != '/') (p ++ below) = (p, below) := by
    apply spanWhile_append
    · intro c hc
      exact bne_iff_ne.mpr (ne_of_mem_of_not_mem hc hp)
    · cases below with
      | nil => rfl
      | cons c below => simpa [EndsSegment] using hbelow
  exact congrArg Prod.fst hspan

/-- What stands before the end of a segment is not empty if it does not begin with a slash. -/
lemma ne_nil_of_endsSegment (hends : EndsSegment below) (hne : p ++ below ≠ [])
    (hroot : (p ++ below).head? ≠ some '/') : p ≠ [] := by
  rintro rfl
  rw [List.nil_append] at hne hroot
  obtain ⟨c, rest, rfl⟩ := List.exists_cons_of_ne_nil hne
  exact hroot (congrArg some (hends c rfl))

/-- A text without slashes is a segment, and another one has a text behind its first segment. -/
lemma segment_cases (s : List Char) :
    (firstSegment s = s ∧ '/' ∉ s) ∨ ∃ rest, s = firstSegment s ++ '/' :: rest := by
  obtain ⟨below, heq, hbelow⟩ := firstSegment_append s
  cases below with
  | nil =>
    rw [List.append_nil] at heq
    exact .inl ⟨heq.symm, heq ▸ slash_not_mem_firstSegment s⟩
  | cons c rest =>
    obtain rfl : c = '/' := hbelow c rfl
    exact .inr ⟨rest, heq⟩

/-- The segment behind the first one. -/
def secondSegment (s : List Char) : List Char :=
  firstSegment (s.drop ((firstSegment s).length + 1))

lemma secondSegment_append {scope rest : List Char} (hscope : '/' ∉ scope) :
    secondSegment (scope ++ '/' :: rest) = firstSegment rest := by
  rw [secondSegment, firstSegment_append_of_endsSegment hscope (endsSegment_slash rest)]
  simp

lemma head?_splitAt (s : List Char) : (splitAt '/' s).head? = some (firstSegment s) := by
  obtain ⟨heq, hnone⟩ | ⟨rest, heq⟩ := segment_cases s
  · rw [splitAt_of_not_mem hnone, heq]
    rfl
  · conv_lhs => rw [heq]
    rw [splitAt_append, splitAt_of_not_mem (slash_not_mem_firstSegment s)]
    rfl

/-- The segment behind the first one is empty if there is none or if it is. -/
lemma secondSegment_eq_nil_iff (s : List Char) :
    secondSegment s = [] ↔ '/' ∉ s ∨ (splitAt '/' s)[1]? = some [] := by
  obtain ⟨heq, hnone⟩ | ⟨rest, heq⟩ := segment_cases s
  · have hempty : secondSegment s = [] := by
      rw [secondSegment, heq, List.drop_eq_nil_of_le (Nat.le_succ _)]
      rfl
    exact iff_of_true hempty (.inl hnone)
  · have hmem : '/' ∈ s := by
      rw [heq]
      simp
    have hsecond : (splitAt '/' s)[1]? = some (firstSegment rest) := by
      rw [heq, splitAt_append, splitAt_of_not_mem (slash_not_mem_firstSegment s), ← head?_splitAt]
      exact List.head?_eq_getElem?.symm
    rw [hsecond, heq, secondSegment_append (slash_not_mem_firstSegment s)]
    simp

lemma packageOf?_of_mayName (h : MayName s) :
    packageOf? s =
      if s.head? = some '@' then
        if secondSegment s = [] then none else some (firstSegment s ++ '/' :: secondSegment s)
      else some (firstSegment s) := by
  have halias : aliasBeginnings.any (fun start => startsWith start.toList s) = false := by
    rw [List.any_eq_false]
    exact fun start hmem => mt startsWith_iff.mp (h.notAlias start hmem)
  have hscheme : after? ['n', 'o', 'd', 'e', ':'] s = none :=
    after?_eq_none_iff.mpr fun hbegins => h.noScheme (hbegins.subset (by decide))
  have hpath : ¬(s.head? == some '.' || s.head? == some '/') = true := by
    simp [h.notPoint, h.notRoot]
  rw [packageOf?, if_neg hpath, halias, if_neg Bool.false_ne_true, hscheme]
  by_cases hat : s.head? = some '@'
  · rw [if_pos hat, secondSegment]
    by_cases hsecond : firstSegment (s.drop ((firstSegment s).length + 1)) = []
    · simp [hat, h.noScheme, hsecond]
    · simp [hat, h.noScheme, hsecond]
  · simp [hat, h.noScheme]

lemma packageOf?_of_not_mayName (hscheme : ¬scheme <+: s) (h : ¬MayName s) :
    packageOf? s = none := by
  have hafter : after? ['n', 'o', 'd', 'e', ':'] s = none := after?_eq_none_iff.mpr hscheme
  by_cases hpath : (s.head? == some '.' || s.head? == some '/') = true
  · exact if_pos hpath
  by_cases halias : (aliasBeginnings.any fun start => startsWith start.toList s) = true
  · rw [packageOf?, if_neg hpath, if_pos halias]
  have hcolon : ':' ∈ s := by
    by_contra hnone
    simp only [Bool.or_eq_true, beq_iff_eq, not_or] at hpath
    refine h ⟨hpath.1, hpath.2, fun start hmem hstart => halias ?_, hnone⟩
    exact List.any_eq_true.mpr ⟨start, hmem, startsWith_iff.mpr hstart⟩
  rw [packageOf?, if_neg hpath, if_neg halias, hafter]
  simp [hcolon]

/-- A specifier belongs to a package if the package is at its head, up to its end or to a slash. -/
theorem packageOf?_eq_some_iff (hne : s ≠ []) (hscheme : ¬scheme <+: s) :
    packageOf? s = some p ↔
      MayName s ∧ IsPackage p ∧ ∃ below, s = p ++ below ∧ EndsSegment below := by
  by_cases h : MayName s
  swap
  · rw [packageOf?_of_not_mayName hscheme h]
    simp [h]
  rw [packageOf?_of_mayName h, and_iff_right h]
  constructor
  · intro hp
    split_ifs at hp with hat hsecond
    · obtain rfl := Option.some.inj hp
      obtain ⟨heq, hnone⟩ | ⟨rest, heq⟩ := segment_cases s
      · exact absurd ((secondSegment_eq_nil_iff s).mpr (.inl hnone)) hsecond
      · have hscope := slash_not_mem_firstSegment s
        have hrest : secondSegment s = firstSegment rest := by
          conv_lhs => rw [heq]
          exact secondSegment_append hscope
        have hfirst : (firstSegment s).head? = some '@' := by
          rw [heq] at hat
          cases hsegment : firstSegment s with
          | nil => simp [hsegment] at hat
          | cons c segment => simpa [hsegment] using hat
        obtain ⟨below, hbelow, hends⟩ := firstSegment_append rest
        refine ⟨.inScope hfirst hscope (slash_not_mem_firstSegment _) hsecond, below, ?_, hends⟩
        conv_lhs => rw [heq, hbelow]
        rw [hrest, List.append_assoc, List.cons_append]
    · obtain rfl := Option.some.inj hp
      obtain ⟨below, hbelow, hends⟩ := firstSegment_append s
      have hfirst := mt (head?_of_begins ⟨below, hbelow.symm⟩) hat
      exact ⟨.name hfirst (slash_not_mem_firstSegment s), below, hbelow, hends⟩
  · rintro ⟨hp, below, rfl, hends⟩
    cases hp with
    | name hat hname =>
      have hhead : (p ++ below).head? ≠ some '@' := by
        rwa [List.head?_append_of_ne_nil p (ne_nil_of_endsSegment hends hne h.notRoot)]
      rw [if_neg hhead, firstSegment_append_of_endsSegment hname hends]
    | @inScope scope name hat hscope hname hnonempty =>
      have hhead : (scope ++ '/' :: name ++ below).head? = some '@' := by
        rw [List.append_assoc, List.head?_append, hat, Option.some_or]
      rw [if_pos hhead, List.append_assoc, List.cons_append, secondSegment_append hscope,
        firstSegment_append_of_endsSegment hname hends, if_neg hnonempty,
        firstSegment_append_of_endsSegment hscope (endsSegment_slash _)]

/-- Whether a specifier belongs to no package: it is a path, an alias begins it, it has a scheme, or
no name follows its scope. -/
def NamesNone (s : List Char) : Prop :=
  s.head? = some '.' ∨ s.head? = some '/' ∨ (∃ start ∈ aliasBeginnings, start.toList <+: s) ∨
    ':' ∈ s ∨ s.head? = some '@' ∧ ('/' ∉ s ∨ (splitAt '/' s)[1]? = some [])

lemma packageOf?_eq_none_iff (hscheme : ¬scheme <+: s) : packageOf? s = none ↔ NamesNone s := by
  by_cases h : MayName s
  · have halias : ¬∃ start ∈ aliasBeginnings, start.toList <+: s :=
      fun ⟨start, hmem, hstart⟩ => h.notAlias start hmem hstart
    have hmay : NamesNone s ↔ s.head? = some '@' ∧ secondSegment s = [] := by
      simp only [NamesNone, h.notPoint, h.notRoot, h.noScheme, halias, secondSegment_eq_nil_iff,
        false_or]
    rw [packageOf?_of_mayName h, hmay]
    split_ifs with hat hsecond
    · exact iff_of_true rfl ⟨hat, hsecond⟩
    · exact iff_of_false (by simp) fun hnone => hsecond hnone.2
    · exact iff_of_false (by simp) fun hnone => hat hnone.1
  · refine iff_of_true (packageOf?_of_not_mayName hscheme h) ?_
    by_contra hnone
    simp only [NamesNone, not_or, not_exists, not_and] at hnone
    exact h ⟨hnone.1, hnone.2.1, hnone.2.2.1, hnone.2.2.2.1⟩

/-- What the package of a specifier is: it belongs to itself, the specifier begins with it up to its
end or a slash, only a scope adds a slash to it, and what is inside it belongs to it, unless an
alias begins with it. -/
structure IsPackageOf (specifier package : String) : Prop where
  itself : packageName? package = some package
  atHead : ∃ below, specifier.toList = package.toList ++ below ∧ EndsSegment below
  slashes : package.toList.count '/' = if package.toList.head? = some '@' then 1 else 0
  inside : ∀ path : String, ':' ∉ path.toList →
    packageName? (package ++ "/" ++ path) =
      if ∃ start ∈ aliasBeginnings, start.toList <+: package.toList ++ ['/'] then none
      else some package

lemma IsPackage.count_slash (h : IsPackage p) :
    p.count '/' = if p.head? = some '@' then 1 else 0 := by
  cases h with
  | name hat hname => rw [if_neg hat, List.count_eq_zero.mpr hname]
  | @inScope scope name hat hscope hname =>
    have hhead : (scope ++ '/' :: name).head? = some '@' := by
      rw [List.head?_append, hat, Option.some_or]
    rw [if_pos hhead, List.count_append, List.count_cons_self, List.count_eq_zero.mpr hscope,
      List.count_eq_zero.mpr hname]

lemma not_scheme_of_not_mem (h : ':' ∉ s) : ¬scheme <+: s :=
  fun hscheme => h (hscheme.subset (by decide))

lemma packageOf?_itself (hne : p ≠ []) (hmay : MayName p) (hp : IsPackage p) :
    packageOf? p = some p :=
  (packageOf?_eq_some_iff hne (not_scheme_of_not_mem hmay.noScheme)).mpr
    ⟨hmay, hp, [], by simp, by simp [EndsSegment]⟩

/-- What is inside a package belongs to it, unless an alias begins with it. -/
lemma packageOf?_inside (hne : p ≠ []) (hmay : MayName p) (hp : IsPackage p)
    {path : List Char} (hpath : ':' ∉ path) :
    packageOf? (p ++ '/' :: path) =
      if ∃ start ∈ aliasBeginnings, start.toList <+: p ++ ['/'] then none else some p := by
  have hcolon : ':' ∉ p ++ '/' :: path := by
    simp [hmay.noScheme, hpath]
  have hscheme := not_scheme_of_not_mem hcolon
  have hhead : (p ++ '/' :: path).head? = p.head? := List.head?_append_of_ne_nil p hne
  split_ifs with halias
  · obtain ⟨start, hmem, hstart⟩ := halias
    have hwhole : p ++ ['/'] <+: p ++ '/' :: path := by simp
    refine (packageOf?_eq_none_iff hscheme).mpr (.inr (.inr (.inl ?_)))
    exact ⟨start, hmem, hstart.trans hwhole⟩
  · refine (packageOf?_eq_some_iff (by simp) hscheme).mpr ⟨⟨?_, ?_, ?_, hcolon⟩, hp, _, rfl,
      endsSegment_slash path⟩
    · rw [hhead]
      exact hmay.notPoint
    · rw [hhead]
      exact hmay.notRoot
    · exact fun start hmem hstart => halias ⟨start, hmem, prefix_of_alias hmem hstart⟩

lemma isPackageOf_of_eq_some {specifier package : String} (hne : specifier ≠ "")
    (hscheme : ¬scheme <+: specifier.toList) (h : packageName? specifier = some package) :
    IsPackageOf specifier package := by
  have hnotNil : specifier.toList ≠ [] := by simpa using hne
  have hpackage : packageOf? specifier.toList = some package.toList := by
    obtain ⟨p, hp, rfl⟩ := Option.map_eq_some_iff.mp h
    rwa [String.toList_ofList]
  obtain ⟨hmay, hform, below, heq, hends⟩ := (packageOf?_eq_some_iff hnotNil hscheme).mp hpackage
  have hpackageMay : MayName package.toList := hmay.of_begins ⟨below, heq.symm⟩
  have hpackageNe : package.toList ≠ [] :=
    ne_nil_of_endsSegment hends (heq ▸ hnotNil) (heq ▸ hmay.notRoot)
  constructor
  case itself =>
    rw [packageName?, packageOf?_itself hpackageNe hpackageMay hform]
    simp
  case atHead => exact ⟨below, heq, hends⟩
  case slashes => exact hform.count_slash
  case inside =>
    intro path hpath
    have htext : (package ++ "/" ++ path).toList = package.toList ++ '/' :: path.toList := by simp
    rw [packageName?, htext, packageOf?_inside hpackageNe hpackageMay hform hpath]
    split_ifs <;> simp

lemma ne_empty_of_quotedSpecifier? {specifier : String} {rest : List Char}
    (h : quotedSpecifier? s = some (specifier, rest)) : specifier ≠ "" := by
  cases s with
  | nil => cases h
  | cons quote s =>
    by_cases hquote : isQuote quote = true
    · rw [quotedSpecifier?_cons s hquote] at h
      split at h
      · split at h
        · cases h
        · next hinner =>
          cases h
          intro hempty
          rw [String.ofList_eq_empty_iff] at hempty
          simp [hempty] at hinner
      · cases h
    · have hnone : quotedSpecifier? (quote :: s) = none := if_neg hquote
      rw [hnone] at h
      cases h

/-- No specifier that a text has is empty. -/
lemma ne_empty_of_mem_specifiers {source : List Char} {specifier : String}
    (h : specifier ∈ specifiers source) : specifier ≠ "" := by
  have hcall (word : List Char) : ∀ before s rest,
      callSpecifier? word before s = some (specifier, rest) → specifier ≠ "" := by
    intro before s rest hfind
    simp only [callSpecifier?, bind, Option.bind_eq_some_iff] at hfind
    obtain ⟨-, -, behind, -, ⟨found, inner⟩, hquoted, close, -, heq⟩ := hfind
    cases heq
    exact ne_empty_of_quotedSpecifier? hquoted
  have hstatic : ∀ before s rest,
      staticSpecifier? before s = some (specifier, rest) → specifier ≠ "" := by
    intro before s rest hfind
    simp only [staticSpecifier?, bind, Option.bind_eq_some_iff] at hfind
    obtain ⟨behind, -, hfind⟩ := hfind
    split at hfind
    · exact ne_empty_of_quotedSpecifier? hfind
    · cases hfind
  rw [specifiers, List.mem_append, List.mem_append] at h
  rcases h with (h | h) | h <;> obtain ⟨u, v, rest, -, hfind⟩ := exists_of_mem_scan h
  · exact hstatic _ _ _ hfind
  · exact hcall _ _ _ _ hfind
  · exact hcall _ _ _ _ hfind

/-- The specifiers of a text are not empty. One that is not under the scheme of the runtime belongs
to a package at its head, or to none, and then it is of a form that names none. -/
theorem packageName?_exact :
    (∀ source, ∀ specifier ∈ specifiers source, specifier ≠ "") ∧
      ∀ specifier : String, specifier ≠ "" → ¬scheme <+: specifier.toList →
        (∀ package, packageName? specifier = some package → IsPackageOf specifier package) ∧
        (packageName? specifier = none ↔ NamesNone specifier.toList) := by
  refine ⟨fun source specifier => ne_empty_of_mem_specifiers, fun specifier hne hscheme => ?_⟩
  refine ⟨fun package => isPackageOf_of_eq_some hne hscheme, ?_⟩
  rw [packageName?, Option.map_eq_none_iff]
  exact packageOf?_eq_none_iff hscheme

/-- Part of a package in a scope, a package with the name of an alias, and a scope on its own. -/
theorem packageName?_exact_devtools :
    "@tanstack/query/devtools" ∈ specifiers "export * from '@tanstack/query/devtools'".toList ∧
      "@tanstack/query/devtools" ≠ "" ∧ ¬scheme <+: "@tanstack/query/devtools".toList ∧
      packageName? "@tanstack/query/devtools" = some "@tanstack/query" ∧
      IsPackageOf "@tanstack/query/devtools" "@tanstack/query" ∧
      packageName? "src" = some "src" ∧ packageName? ("src" ++ "/" ++ "lib") = none ∧
      packageName? "@tanstack" = none := by
  obtain ⟨hspecifiers, hpackages⟩ := packageName?_exact
  have hmem : "@tanstack/query/devtools" ∈
      specifiers "export * from '@tanstack/query/devtools'".toList := by decide +kernel
  have hne := hspecifiers _ _ hmem
  have hscheme : ¬scheme <+: "@tanstack/query/devtools".toList := by decide
  have hpackage : packageName? "@tanstack/query/devtools" = some "@tanstack/query" := by
    decide +kernel
  have hsrc : packageName? "src" = some "src" := by decide +kernel
  have hinside := ((hpackages "src" (by decide) (by decide)).1 _ hsrc).inside "lib" (by decide)
  have hnone := (hpackages "@tanstack" (by decide) (by decide)).2
  refine ⟨hmem, hne, hscheme, hpackage, (hpackages _ hne hscheme).1 _ hpackage, hsrc, ?_, ?_⟩
  · rw [hinside, if_pos ⟨"src/", by decide, by decide⟩]
  · exact hnone.mpr (.inr (.inr (.inr (.inr (by decide)))))

end GapAudit.Modules
