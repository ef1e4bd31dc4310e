import Codemod.Proofs.Descent
import Codemod.Proofs.Tree

/-!
Where paths lead. No content of a file has a part in it, so that trees with the same blank form agree
on every path. From wherever a root leads, the names on the way down from it lead to the entry that
they name, unless the path has become too long.
-/
namespace Codemod.Tree

inductive Move where
  | entry (l : Location)
  | free
  | link (target : Path)

def move (t : Tree) (here : Location) (step : String) : Except IoError Move :=
  match t.get? here with
  | none => .error .notFound
  | some (.dir es) =>
    if step = "." then .ok (.entry here)
    else if step = ".." then .ok (.entry here.dropLast)
    else if nameLimit < step.utf8ByteSize then .error .nameTooLong
    else match List.lookup step es with
      | none => .ok .free
      | some (.link target) => .ok (.link target)
      | some _ => .ok (.entry (here ++ [step]))
  | some (.closed _) => .error .denied
  | some _ => .error .notDirectory

theorem takeStepsCons (t : Tree) (follow : Location → List String → Except IoError Spot) (stop : Bool)
    (here : Location) (step : String) (rest : List String) :
    takeSteps t follow stop here (step :: rest) =
      match t.move here step with
      | .error e => .error e
      | .ok (.entry l) => takeSteps t follow stop l rest
      | .ok .free => if rest.isEmpty then .ok (.free here step) else .error .notFound
      | .ok (.link target) =>
        if rest.isEmpty && stop then .ok (.entry (here ++ [step]))
        else follow (origin target.text.toList here) (steps target.text.toList ++ rest) := by
  simp only [takeSteps, move]
  cases t.get? here with
  | none => rfl
  | some n =>
    cases n with
    | file content mode => rfl
    | link target => rfl
    | dir es =>
      by_cases dot : step = "."
      · simp [dot]
      by_cases up : step = ".."
      · simp [up]
      by_cases long : nameLimit < step.utf8ByteSize
      · simp [dot, up, long]
      simp only [dot, up, long, if_false]
      cases List.lookup step es with
      | none => rfl
      | some c => cases c <;> rfl
    | closed es => rfl

theorem moveBlank (t : Tree) (here : Location) (step : String) : t.blank.move here step = t.move here step := by
  simp only [move, getBlank]
  cases t.get? here with
  | none => rfl
  | some n =>
    cases n with
    | file content mode => rfl
    | link target => rfl
    | dir es =>
      simp only [Option.map_some, Node.blank, Node.lookupBlank]
      cases List.lookup step es with
      | none => rfl
      | some c => cases c <;> rfl
    | closed es => rfl

theorem takeStepsBlank (t : Tree) (follow : Location → List String → Except IoError Spot)
    (stop : Bool) (here : Location) (ss : List String) :
    takeSteps t.blank follow stop here ss = takeSteps t follow stop here ss := by
  induction ss generalizing here with
  | nil => rfl
  | cons step rest ih => simp only [takeStepsCons, moveBlank, ih]

theorem resolveBlank (t : Tree) (stop : Bool) (n : Nat) : resolve t.blank stop n = resolve t stop n := by
  induction n with
  | zero =>
    funext here ss
    exact takeStepsBlank t _ stop here ss
  | succ n ih =>
    funext here ss
    simp only [resolve, ih]
    exact takeStepsBlank t _ stop here ss

theorem locateBlank (t : Tree) (p : Path) (stop : Bool) : t.blank.locate p stop = t.locate p stop := by
  simp only [locate, resolveBlank]
  rfl

variable {t u : Tree}

theorem locateSame (same : t.blank = u.blank) (p : Path) (stop : Bool) :
    t.locate p stop = u.locate p stop := by
  rw [← locateBlank t, same, locateBlank]

theorem findSame (same : t.blank = u.blank) (p : Path) : t.find p = u.find p := by
  simp only [find, locateSame same]

theorem findLinkSame (same : t.blank = u.blank) (p : Path) : t.findLink p = u.findLink p := by
  simp only [findLink, locateSame same]

theorem getSame (same : t.blank = u.blank) (l : Location) :
    (t.get? l).map Node.blank = (u.get? l).map Node.blank := by
  rw [← getBlank, same, getBlank]

theorem dirSame (same : t.blank = u.blank) {l : Location} {es : Directory}
    (dir : t.get? l = some (.dir es)) : ∃ fs, u.get? l = some (.dir fs) := by
  have here := getSame same l
  rw [dir] at here
  obtain ⟨n, there, blank⟩ := Option.map_eq_some_iff.mp here.symm
  cases n <;> simp_all [Node.blank]

theorem linkSame (same : t.blank = u.blank) {l : Location} {target : Path}
    (link : t.get? l = some (.link target)) : u.get? l = some (.link target) := by
  have here := getSame same l
  rw [link] at here
  obtain ⟨n, there, blank⟩ := Option.map_eq_some_iff.mp here.symm
  cases n <;> simp_all [Node.blank]

theorem lookOf (t : Tree) (p : Path) : t.look p = (t.find p).bind t.nodeAt := rfl

theorem lookOk {p : Path} {n : Node} :
    t.look p = .ok n ↔ ∃ l, t.find p = .ok l ∧ t.get? l = some n := by
  rw [lookOf]
  cases t.find p with
  | error e => simp [Except.bind]
  | ok l => cases there : t.get? l <;> simp [Except.bind, nodeAt, there]

theorem lookLinkOf (t : Tree) (p : Path) : t.lookLink p = (t.findLink p).bind t.nodeAt := rfl

theorem nodeAtSame (same : t.blank = u.blank) (l : Location) :
    (t.nodeAt l).map Node.blank = (u.nodeAt l).map Node.blank := by
  have here := getSame same l
  simp only [nodeAt]
  cases ht : t.get? l <;> cases hu : u.get? l <;> simp_all [Except.map]

theorem lookSame (same : t.blank = u.blank) (p : Path) :
    (t.look p).map Node.blank = (u.look p).map Node.blank := by
  rw [lookOf, lookOf, findSame same]
  cases u.find p with
  | error e => rfl
  | ok l => exact nodeAtSame same l

def listingOf : Node → Except IoError (List (String × Kind))
  | .dir es => .ok (Ordered.sort nameLE (es.map fun e => (e.1, kindOf e.2)))
  | .closed _ => .error .denied
  | _ => .error .notDirectory

theorem listOf (t : Tree) (p : Path) : t.list p = (t.look p).bind listingOf := by
  unfold list
  cases t.look p with
  | error e => rfl
  | ok n => cases n <;> rfl

theorem kindBlank (n : Node) : kindOf n.blank = kindOf n := by cases n <;> rfl

theorem listingBlank (n : Node) : listingOf n.blank = listingOf n := by
  cases n with
  | file content mode => rfl
  | link target => rfl
  | dir es => simp [listingOf, Node.blank, Node.blankEntriesMap, Function.comp_def, kindBlank]
  | closed es => rfl

theorem listSame (same : t.blank = u.blank) (p : Path) : t.list p = u.list p := by
  have here := lookSame same p
  rw [listOf, listOf]
  cases ht : t.look p with
  | error e =>
    cases hu : u.look p with
    | error e' => simp_all [Except.map, Except.bind]
    | ok m => simp [ht, hu, Except.map] at here
  | ok n =>
    cases hu : u.look p with
    | error e' => simp [ht, hu, Except.map] at here
    | ok m =>
      simp only [ht, hu, Except.map, Except.ok.injEq] at here
      simp only [Except.bind, ← listingBlank n, here, listingBlank]

def readingOf : Node → Except IoError Bytes
  | .file content _ => .ok content
  | .dir _ => .error .isDirectory
  | .closed _ => .error .denied
  | .link _ => .error .tooManyLinks

theorem readOf (t : Tree) (p : Path) : t.read p = (t.look p).bind readingOf := by
  unfold read
  cases t.look p with
  | error e => rfl
  | ok n => cases n <;> rfl

theorem readSame (same : t.blank = u.blank) {p : Path}
    (contents : ∀ l, t.find p = .ok l → t.content? l = u.content? l) : t.read p = u.read p := by
  rw [readOf, readOf, lookOf, lookOf, ← findSame same]
  cases found : t.find p with
  | error e => rfl
  | ok l =>
    have here := getSame same l
    have inside := contents l found
    simp only [content?, Node.content?, get?] at inside here
    simp only [Except.bind, nodeAt, get?]
    cases ht : t.root.get? l with
    | none =>
      cases hu : u.root.get? l with
      | none => rfl
      | some m => simp [ht, hu] at here
    | some n =>
      cases hu : u.root.get? l with
      | none => simp [ht, hu] at here
      | some m => cases n <;> cases m <;> simp_all [readingOf, Node.blank]

/- The steps that follow are taken from where the steps before them have led, with at most as many
links left. -/
theorem takeStepsAppend {before after : Location → List String → Except IoError Spot}
    {stop : Bool} {here l : Location} {ss more : List String} (n : Nat) (further : more ≠ [])
    (own : ∀ there rest, takeSteps t after stop there rest = resolve t stop n there rest)
    (follows : ∀ there rest, before there rest = .ok (.entry l) →
      ∃ k, after there (rest ++ more) = resolve t stop k l more)
    (led : takeSteps t before false here ss = .ok (.entry l)) :
    ∃ k, takeSteps t after stop here (ss ++ more) = resolve t stop k l more := by
  induction ss generalizing here with
  | nil =>
    cases led
    exact ⟨n, own _ more⟩
  | cons step rest ih =>
    have behind : (rest ++ more).isEmpty = false := by simp [further]
    rw [List.cons_append, takeStepsCons]
    rw [takeStepsCons] at led
    cases moved : t.move here step with
    | error e => simp [moved] at led
    | ok way =>
      cases way with
      | entry there => exact ih (by simpa [moved] using led)
      | free =>
        simp only [moved] at led
        split at led <;> simp at led
      | link target =>
        obtain ⟨k, same⟩ := follows _ _ (by simpa [moved] using led)
        exact ⟨k, by simpa [behind] using same⟩

theorem resolveAppend {stop : Bool} {n : Nat} {here l : Location} {ss more : List String}
    (further : more ≠ []) (led : resolve t false n here ss = .ok (.entry l)) :
    ∃ k, resolve t stop n here (ss ++ more) = resolve t stop k l more := by
  induction n generalizing here ss with
  | zero =>
    exact takeStepsAppend 0 further (fun _ _ => rfl) (fun _ _ never => by simp at never) led
  | succ n ih =>
    exact takeStepsAppend (n + 1) further (fun _ _ => rfl) (fun _ _ next => ih next) led

theorem dirAbove {l : Location} {es : Directory} (there : t.get? l = some (.dir es)) :
    ∃ fs, t.get? l.dropLast = some (.dir fs) := by
  cases last : l.getLast? with
  | none =>
    rw [List.getLast?_eq_none_iff] at last
    subst last
    exact ⟨es, there⟩
  | some name =>
    obtain ⟨d, rfl⟩ := List.getLast?_eq_some_iff.mp last
    obtain ⟨n, atDir, below⟩ := Option.bind_eq_some_iff.mp ((Node.getAppend _ _ _).symm.trans there)
    obtain ⟨c, child, -⟩ := Option.bind_eq_some_iff.mp below
    obtain ⟨fs, rfl, -⟩ := Node.childDir child
    exact ⟨fs, by rw [List.dropLast_concat]; exact atDir⟩

theorem getStep {here : Location} {es : Directory} (there : t.get? here = some (.dir es)) (step : String) :
    t.get? (here ++ [step]) = List.lookup step es := by
  have below := Node.getAppend t.root here [step]
  rw [show t.root.get? here = some (.dir es) from there] at below
  simpa [Tree.get?, Node.getCons, Node.child?, Node.get?] using below

theorem moveDir {here : Location} {step : String} {way : Move} (moved : t.move here step = .ok way) :
    ∃ es, t.get? here = some (.dir es) := by
  unfold move at moved
  split at moved <;> try contradiction
  next es there => exact ⟨es, there⟩

theorem moveEntry {here l : Location} {step : String} (moved : t.move here step = .ok (.entry l)) :
    (t.get? l).isSome := by
  obtain ⟨es, there⟩ := moveDir moved
  simp only [move, there] at moved
  split at moved
  · cases moved
    simp [there]
  split at moved
  · cases moved
    obtain ⟨fs, above⟩ := dirAbove there
    simp [above]
  split at moved
  · contradiction
  cases entry : List.lookup step es with
  | none => simp [entry] at moved
  | some c =>
    have inside : t.get? (here ++ [step]) = some c := by rw [getStep there, entry]
    cases c with
    | link target => simp [entry] at moved
    | file content mode =>
      obtain rfl : here ++ [step] = l := by simpa [entry] using moved
      simp [inside]
    | dir fs =>
      obtain rfl : here ++ [step] = l := by simpa [entry] using moved
      simp [inside]
    | closed fs =>
      obtain rfl : here ++ [step] = l := by simpa [entry] using moved
      simp [inside]

theorem moveLink {here : Location} {step : String} {target : Path}
    (moved : t.move here step = .ok (.link target)) : t.get? (here ++ [step]) = some (.link target) := by
  obtain ⟨es, there⟩ := moveDir moved
  simp only [move, there] at moved
  split at moved
  · cases moved
  split at moved
  · cases moved
  split at moved
  · contradiction
  rw [getStep there]
  cases entry : List.lookup step es with
  | none => simp [entry] at moved
  | some c => cases c <;> simp_all

theorem takeStepsStand {follow : Location → List String → Except IoError Spot} {stop : Bool}
    {here l : Location} {ss : List String} (start : (t.get? here).isSome ∨ ss ≠ [])
    (follows : ∀ there rest, (t.get? there).isSome → follow there rest = .ok (.entry l) →
      (t.get? l).isSome)
    (led : takeSteps t follow stop here ss = .ok (.entry l)) : (t.get? l).isSome := by
  induction ss generalizing here with
  | nil =>
    cases led
    exact start.resolve_right (by simp)
  | cons step rest ih =>
    rw [takeStepsCons] at led
    cases moved : t.move here step with
    | error e => simp [moved] at led
    | ok way =>
      cases way with
      | entry there => exact ih (.inl (moveEntry moved)) (by simpa [moved] using led)
      | free =>
        simp only [moved] at led
        split at led <;> simp at led
      | link target =>
        simp only [moved] at led
        split at led
        · cases led
          simp [moveLink moved]
        · refine follows _ _ ?_ led
          obtain ⟨es, there⟩ := moveDir moved
          rw [origin]
          split
          · rfl
          · simp [there]

theorem resolveStand {stop : Bool} {n : Nat} {here l : Location} {ss : List String}
    (start : (t.get? here).isSome ∨ ss ≠ []) (led : resolve t stop n here ss = .ok (.entry l)) :
    (t.get? l).isSome := by
  induction n generalizing here ss with
  | zero => exact takeStepsStand start (fun _ _ _ never => by simp at never) led
  | succ n ih => exact takeStepsStand start (fun _ _ there next => ih (.inl there) next) led

theorem takeStepsStop {follow stopping : Location → List String → Except IoError Spot}
    {here l : Location} {ss : List String}
    (follows : ∀ there rest, follow there rest = .ok (.entry l) →
      ∃ k, stopping there rest = .ok (.entry k) ∧ (k = l ∨ ∃ target, t.get? k = some (.link target)))
    (led : takeSteps t follow false here ss = .ok (.entry l)) :
    ∃ k, takeSteps t stopping true here ss = .ok (.entry k) ∧
      (k = l ∨ ∃ target, t.get? k = some (.link target)) := by
  induction ss generalizing here with
  | nil =>
    cases led
    exact ⟨_, rfl, .inl rfl⟩
  | cons step rest ih =>
    rw [takeStepsCons] at led ⊢
    cases moved : t.move here step with
    | error e => simp [moved] at led
    | ok way =>
      cases way with
      | entry there => exact ih (by simpa [moved] using led)
      | free =>
        simp only [moved] at led
        split at led <;> simp at led
      | link target =>
        by_cases final : rest.isEmpty
        · exact ⟨here ++ [step], by simp [final], .inr ⟨target, moveLink moved⟩⟩
        · obtain ⟨k, arrived, kind⟩ := follows _ _ (by simpa [moved] using led)
          exact ⟨k, by simpa [final] using arrived, kind⟩

theorem resolveStop {n : Nat} {here l : Location} {ss : List String}
    (led : resolve t false n here ss = .ok (.entry l)) :
    ∃ k, resolve t true n here ss = .ok (.entry k) ∧
      (k = l ∨ ∃ target, t.get? k = some (.link target)) := by
  induction n generalizing here ss with
  | zero => exact takeStepsStop (fun _ _ never => by simp at never) led
  | succ n ih => exact takeStepsStop (fun _ _ next => ih next) led

theorem takeStepsDots {follow : Location → List String → Except IoError Spot} {dots : String}
    {here l : Location} {ss : List String} (given : dots = "." ∨ dots = "..")
    (follows : ∀ there rest, follow there (rest ++ [dots]) = .ok (.entry l) →
      ∃ d es, follow there rest = .ok (.entry d) ∧ t.get? d = some (.dir es) ∧
        l = if dots = "." then d else d.dropLast)
    (led : takeSteps t follow false here (ss ++ [dots]) = .ok (.entry l)) :
    ∃ d es, takeSteps t follow false here ss = .ok (.entry d) ∧ t.get? d = some (.dir es) ∧
      l = if dots = "." then d else d.dropLast := by
  induction ss generalizing here with
  | nil =>
    rw [List.nil_append, takeStepsCons] at led
    cases moved : t.move here dots with
    | error e => simp [moved] at led
    | ok way =>
      obtain ⟨es, there⟩ := moveDir moved
      refine ⟨here, es, rfl, there, ?_⟩
      rcases given with rfl | rfl <;> simpa [move, there, takeSteps] using led.symm
  | cons step rest ih =>
    rw [List.cons_append, takeStepsCons] at led
    rw [takeStepsCons]
    cases moved : t.move here step with
    | error e => simp [moved] at led
    | ok way =>
      cases way with
      | entry there => exact ih (by simpa [moved] using led)
      | free => simp [moved] at led
      | link target => simpa using follows _ _ (by simpa [moved] using led)

theorem resolveDots {dots : String} {n : Nat} {here l : Location} {ss : List String}
    (given : dots = "." ∨ dots = "..")
    (led : resolve t false n here (ss ++ [dots]) = .ok (.entry l)) :
    ∃ d es, resolve t false n here ss = .ok (.entry d) ∧ t.get? d = some (.dir es) ∧
      l = if dots = "." then d else d.dropLast := by
  induction n generalizing here ss with
  | zero => exact takeStepsDots given (fun _ _ never => by simp at never) led
  | succ n ih => exact takeStepsDots given (fun _ _ next => ih (by simpa using next)) led

theorem dotsDir {dots : String} {n : Nat} {here l : Location} {ss : List String}
    (given : dots = "." ∨ dots = "..")
    (led : resolve t false n here (ss ++ [dots]) = .ok (.entry l)) :
    ∃ es, t.get? l = some (.dir es) := by
  obtain ⟨d, es, -, there, rfl⟩ := resolveDots given led
  split
  · exact ⟨es, there⟩
  · exact dirAbove there

theorem isNameProper {name : String} (h : isName name) :
    Path.IsName name.toList ∧ '\x00' ∉ name.toList ∧ name.utf8ByteSize ≤ nameLimit := by
  simp only [isName, ne_eq, decide_not, Bool.and_eq_true, Bool.not_eq_eq_eq_not, Bool.not_true,
    decide_eq_false_iff_not, List.contains_eq_mem, decide_eq_true_eq] at h
  obtain ⟨⟨⟨⟨⟨nonempty, here⟩, parent⟩, slash⟩, nul⟩, short⟩ := h
  refine ⟨⟨?_, ?_, ?_, slash⟩, nul, short⟩
  · simpa using nonempty
  · intro same
    exact here (String.toList_injective same)
  · intro same
    exact parent (String.toList_injective same)

theorem takeNames {follow : Location → List String → Except IoError Spot} {stop : Bool}
    {here ns : Location} {node : Node} (proper : ∀ n ∈ ns, isName n)
    (there : t.get? (here ++ ns) = some node) (plain : stop = true ∨ kindOf node ≠ .link) :
    takeSteps t follow stop here ns = .ok (.entry (here ++ ns)) := by
  induction ns generalizing here with
  | nil => simp [takeSteps]
  | cons name rest ih =>
    obtain ⟨n, atHere, below⟩ := Option.bind_eq_some_iff.mp ((Node.getAppend _ _ _).symm.trans there)
    obtain ⟨c, child, further⟩ := Option.bind_eq_some_iff.mp below
    obtain ⟨es, rfl, entry⟩ := Node.childDir child
    obtain ⟨own, -, short⟩ := isNameProper (proper name (by simp))
    have dot : name ≠ "." := fun same => own.notHere (by simp [same])
    have up : name ≠ ".." := fun same => own.notParent (by simp [same])
    have deeper := ih (fun x hx => proper x (List.mem_cons_of_mem _ hx))
      (by simpa using there : t.get? ((here ++ [name]) ++ rest) = some node)
    rw [takeSteps, show t.get? here = some (.dir es) from atHere]
    simp only [dot, up, if_false, Nat.not_lt.mpr short, entry]
    cases c with
    | file content mode => simpa using deeper
    | dir fs => simpa using deeper
    | closed fs => simpa using deeper
    | link target =>
      cases rest with
      | nil =>
        cases Option.some.inj further
        have stops : stop = true := plain.resolve_right (by simp [kindOf])
        simp [stops]
      | cons x more => simp [Node.getCons, Node.child?] at further

def named (cs : List Char) : List String :=
  ((Path.segments cs).filter (!·.isEmpty)).map String.ofList

theorem namedSlash (a b : List Char) : named (a ++ '/' :: b) = named a ++ named b := by
  simp [named, Path.segmentsAppend]

theorem namedNames {ns : List String} (down : ns ≠ []) (proper : ∀ n ∈ ns, Path.IsName n.toList) :
    named (Path.unsegments (ns.map String.toList)) = ns := by
  have parts : Path.segments (Path.unsegments (ns.map String.toList)) = ns.map String.toList :=
    Path.segmentsUnsegments (by simpa using down) (by simpa using fun n hn => (proper n hn).noSlash)
  have kept : (ns.map String.toList).filter (!·.isEmpty) = ns.map String.toList := by
    rw [List.filter_eq_self]
    simpa using fun n hn => by simpa using (proper n hn).nonempty
  simp [named, parts, kept, Function.comp_def]

theorem stepsBase (cs : List Char) :
    steps cs = named (Path.base cs) ∨ steps cs = named (Path.base cs) ++ ["."] := by
  by_cases last : cs.getLast? = some '/'
  · obtain ⟨b, rfl⟩ := List.getLast?_eq_some_iff.mp last
    refine .inr ?_
    have slash : named (b ++ ['/']) = named b := by
      rw [namedSlash]
      simp [named, Path.segments]
    rw [steps, ← named, slash]
    simp [endsInSlash, Path.base]
  · refine .inl ?_
    simp [steps, endsInSlash, last, Path.base, named]

section Below

variable {root : Path} {ns : List String}

theorem lastDescend (given : root.text.toList ≠ []) (down : ns ≠ [])
    (proper : ∀ n ∈ ns, Path.IsName n.toList) :
    endsInSlash (root.descend ns).text.toList = false := by
  obtain ⟨c, plain, last⟩ := RelPath.unsegmentsLast
    (by simpa using down : ns.map String.toList ≠ []) (by simpa using proper)
  have text : (root.descend ns).text.toList.getLast? = some c := by
    rw [Path.descendText given down proper, List.getLast?_append, List.getLast?_cons, last]
    rfl
  simp [endsInSlash, text, plain]

theorem stepsDescend (given : root.text.toList ≠ []) (down : ns ≠ [])
    (proper : ∀ n ∈ ns, Path.IsName n.toList) :
    steps (root.descend ns).text.toList = named (Path.base root.text.toList) ++ ns := by
  rw [steps, ← named, lastDescend given down proper, Path.descendText given down proper, namedSlash,
    namedNames down proper]
  simp

theorem headBase {cs : List Char} (given : cs ≠ []) (more : List Char) :
    (Path.base cs ++ '/' :: more).head? = cs.head? := by
  have spelled := Path.baseSpelled cs
  generalize Path.base cs = b at spelled
  rcases spelled with rfl | rfl
  · obtain ⟨c, rest, rfl⟩ := List.exists_cons_of_ne_nil given
    rfl
  · cases b <;> rfl

theorem originDescend (given : root.text.toList ≠ []) (down : ns ≠ [])
    (proper : ∀ n ∈ ns, Path.IsName n.toList) (here : Location) :
    origin (root.descend ns).text.toList here = origin root.text.toList here := by
  simp only [origin, Path.descendText given down proper, headBase given]

theorem nulDescend (given : root.text.toList ≠ []) (proper : ∀ n ∈ ns, isName n)
    (clean : '\x00' ∉ root.text.toList) : '\x00' ∉ (root.descend ns).text.toList := by
  by_cases down : ns = []
  · simpa [down] using clean
  rw [Path.descendText given down fun n hn => (isNameProper (proper n hn)).1]
  intro mem
  rcases List.mem_append.mp mem with above | below
  · have inside : '\x00' ∈ root.text.toList := by
      rcases Path.baseSpelled root.text.toList with same | slash
      · rwa [same]
      · rw [slash]
        exact List.mem_append_left _ above
    exact clean inside
  · rcases List.mem_cons.mp below with slash | later
    · exact absurd slash (by decide)
    · rcases RelPath.memUnsegments later with slash | ⟨n, hn, inside⟩
      · exact absurd slash (by decide)
      · obtain ⟨name, member, rfl⟩ := List.mem_map.mp hn
        exact (isNameProper (proper name member)).2.1 inside

structure Leads (t : Tree) (p : Path) (l : Location) : Prop where
  given : p.text.toList ≠ []
  clean : '\x00' ∉ p.text.toList
  short : p.text.utf8ByteSize < pathLimit
  resolved : resolve t false linkLimit (origin p.text.toList t.working) (steps p.text.toList) =
    .ok (.entry l)

theorem findLeads {p : Path} {l : Location} (found : t.find p = .ok l) : Leads t p l := by
  unfold find locate at found
  split at found <;> try contradiction
  · next spot led =>
    simp only at led
    split at led <;> try contradiction
    next clean =>
    split at led <;> try contradiction
    next given =>
    split at led <;> try contradiction
    next short =>
    cases found
    exact ⟨by simpa using given, by simpa using clean, by simpa using short, led⟩

theorem namedNonempty {cs : List Char} {c : Char} (plain : c ≠ '/') (mem : c ∈ cs) : named cs ≠ [] := by
  rw [← Path.unsegmentsSegments cs] at mem
  rcases RelPath.memUnsegments mem with slash | ⟨s, hs, inside⟩
  · exact absurd slash plain
  · have kept : String.ofList s ∈ named cs :=
      List.mem_map_of_mem (List.mem_filter.mpr ⟨hs, by simpa using List.ne_nil_of_mem inside⟩)
    exact List.ne_nil_of_mem kept

theorem stepsNonempty {cs : List Char} (given : cs ≠ []) : steps cs ≠ [] := by
  rw [steps, ← named]
  by_cases last : endsInSlash cs
  · simp [last]
  · have plain : cs.getLast given ≠ '/' := by
      simpa [endsInSlash, List.getLast?_eq_some_getLast given] using last
    simp [namedNonempty plain (List.getLast_mem given)]

theorem findLinkOf {p : Path} {l : Location} (found : t.find p = .ok l) :
    ∃ k, t.findLink p = .ok k ∧ (k = l ∨ ∃ target, t.get? k = some (.link target)) := by
  have led := findLeads found
  obtain ⟨k, arrived, kind⟩ := resolveStop led.resolved
  refine ⟨k, ?_, kind⟩
  simp [findLink, locate, led.clean, led.given, Nat.not_le.mpr led.short, arrived]

theorem resolveBase {top : Location} {cs : List Char}
    (whole : resolve t false linkLimit (origin cs t.working) (steps cs) = .ok (.entry top)) :
    resolve t false linkLimit (origin cs t.working) (named (Path.base cs)) = .ok (.entry top) := by
  rcases stepsBase cs with same | dot
  · rwa [same] at whole
  · rw [dot] at whole
    obtain ⟨d, es, led, -, rfl⟩ := resolveDots (.inl rfl) whole
    exact led

theorem resolveNames {stop : Bool} {here : Location} {node : Node} (k : Nat)
    (proper : ∀ n ∈ ns, isName n) (there : t.get? (here ++ ns) = some node)
    (plain : stop = true ∨ kindOf node ≠ .link) :
    resolve t stop k here ns = .ok (.entry (here ++ ns)) := by
  cases k <;> exact takeNames proper there plain

theorem resolveDescend {top : Location} {node : Node} {stop : Bool} (given : root.text.toList ≠ [])
    (whole : resolve t false linkLimit (origin root.text.toList t.working) (steps root.text.toList) =
      .ok (.entry top))
    (down : ns ≠ []) (names : ∀ n ∈ ns, isName n) (there : t.get? (top ++ ns) = some node)
    (plain : stop = true ∨ kindOf node ≠ .link) :
    resolve t stop linkLimit (origin (root.descend ns).text.toList t.working)
      (steps (root.descend ns).text.toList) = .ok (.entry (top ++ ns)) := by
  have proper : ∀ n ∈ ns, Path.IsName n.toList := fun n hn => (isNameProper (names n hn)).1
  obtain ⟨k, onward⟩ : ∃ k, resolve t stop linkLimit (origin root.text.toList t.working)
      (named (Path.base root.text.toList) ++ ns) = resolve t stop k top ns :=
    resolveAppend down (resolveBase whole)
  rw [stepsDescend given down proper, originDescend given down proper, onward,
    resolveNames k names there plain]

theorem locateDescend {top : Location} {node : Node} {stop : Bool} (sound : t.Sound)
    (found : t.find root = .ok top) (down : ns ≠ []) (there : t.get? (top ++ ns) = some node)
    (plain : stop = true ∨ kindOf node ≠ .link) :
    t.locate (root.descend ns) stop =
      if pathLimit ≤ (root.descend ns).text.utf8ByteSize then .error .nameTooLong
      else .ok (.entry (top ++ ns)) := by
  have led := findLeads found
  have names : ∀ n ∈ ns, isName n := fun n hn =>
    (Node.soundGet sound there).2 n (List.mem_append_right _ hn)
  have proper : ∀ n ∈ ns, Path.IsName n.toList := fun n hn => (isNameProper (names n hn)).1
  have clean := nulDescend led.given names led.clean
  have given : (root.descend ns).text.toList ≠ [] := by
    simp [Path.descendText led.given down proper]
  have arrives := resolveDescend led.given led.resolved down names there plain
  simp [locate, clean, given, arrives]

theorem findLinkDescend {top : Location} {node : Node} (sound : t.Sound)
    (found : t.find root = .ok top) (down : ns ≠ []) (there : t.get? (top ++ ns) = some node) :
    t.findLink (root.descend ns) =
      if pathLimit ≤ (root.descend ns).text.utf8ByteSize then .error .nameTooLong
      else .ok (top ++ ns) := by
  rw [findLink, locateDescend sound found down there (.inl rfl)]
  by_cases long : pathLimit ≤ (root.descend ns).text.utf8ByteSize <;> simp [long]

theorem findDescend {top : Location} {node : Node} (sound : t.Sound) (found : t.find root = .ok top)
    (there : t.get? (top ++ ns) = some node) (plain : kindOf node ≠ .link) :
    t.find (root.descend ns) =
      if pathLimit ≤ (root.descend ns).text.utf8ByteSize then .error .nameTooLong
      else .ok (top ++ ns) := by
  by_cases down : ns = []
  · simp [down, found, Nat.not_le.mpr (findLeads found).short]
  · rw [find, locateDescend sound found down there (.inr plain)]
    by_cases long : pathLimit ≤ (root.descend ns).text.utf8ByteSize <;> simp [long]

theorem takeStepsMissing {follow : Location → List String → Except IoError Spot} {stop : Bool}
    {here : Location} {es : Directory} {name : String} {rest : List String}
    (dir : t.get? here = some (.dir es)) (proper : Path.IsName name.toList)
    (missing : List.lookup name es = none) (l : Location) :
    takeSteps t follow stop here (name :: rest) ≠ .ok (.entry l) := by
  have dot : name ≠ "." := fun same => proper.notHere (by simp [same])
  have up : name ≠ ".." := fun same => proper.notParent (by simp [same])
  rw [takeSteps, dir]
  simp only [dot, up, if_false, missing]
  split
  · simp
  · split <;> simp

theorem findMissing {top l : Location} {es : Directory} {name : String} {rest : List String}
    (sound : t.Sound) (found : t.find root = .ok top) (dir : t.get? (top ++ ns) = some (.dir es))
    (further : ∀ n ∈ name :: rest, Path.IsName n.toList) (missing : List.lookup name es = none) :
    t.find (root.descend (ns ++ name :: rest)) ≠ .ok l := by
  intro leads
  have led := findLeads found
  have names : ∀ n ∈ ns, isName n := fun n hn =>
    (Node.soundGet sound dir).2 n (List.mem_append_right _ hn)
  have proper : ∀ n ∈ ns ++ name :: rest, Path.IsName n.toList := by
    intro n hn
    rcases List.mem_append.mp hn with above | below
    · exact (isNameProper (names n above)).1
    · exact further n below
  have resolved := (findLeads leads).resolved
  rw [stepsDescend led.given (by simp) proper, originDescend led.given (by simp) proper] at resolved
  -- the steps of the root, then those down to the directory, then the name
  obtain ⟨k, below⟩ : ∃ k, resolve t false linkLimit (origin root.text.toList t.working)
      (named (Path.base root.text.toList) ++ (ns ++ name :: rest)) =
        resolve t false k top (ns ++ name :: rest) :=
    resolveAppend (by simp) (resolveBase led.resolved)
  obtain ⟨j, inside⟩ : ∃ j, resolve t false k top (ns ++ name :: rest) =
      resolve t false j (top ++ ns) (name :: rest) :=
    resolveAppend (by simp) (resolveNames k names dir (.inr (by simp [kindOf])))
  rw [below, inside] at resolved
  cases j <;> exact takeStepsMissing dir (further name (by simp)) missing l resolved

end Below

end Codemod.Tree
