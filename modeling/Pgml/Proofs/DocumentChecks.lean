import Pgml.CommandLine
import Pgml.Proofs.ReadingFaults
import Pgml.Proofs.HistoryIndependence

/-! What a check says of documents. One reader reads them all, but what it comes to with one of them does not
depend on those before, read or not. So a check prints what there is to say of each document alone, one after
the other, and at the end how many of them were not read. Only a fault that is not told breaks it off. -/
namespace Pgml

/-- An event that is no start of an element with a numeral that has too many digits. -/
def Event.Short (hint : String) : Event → Prop
  | .start _ as => ∀ value ∈ as.numerals hint, ¬ Attributes.Overlong value
  | _ => True

instance (hint : String) : DecidablePred (Event.Short hint)
  | .start _ as => inferInstanceAs (Decidable (∀ value ∈ as.numerals hint, ¬ Attributes.Overlong value))
  | .characters _ | .finish _ | .alien => isTrue trivial

namespace CommandLine

/-- What a reader comes to with the document of a path: the number of its shapes, or why it is not read. What it
logs on the way is the second part. -/
def verdict (files : Files) (memory : Nat) (r : Reader) (path : String) : Except Fault Nat × List Notice :=
  let (result, after) := Reader.parse .root
    (Feed.ofFile path ((files path).map (·.toList)) memory r.setup.config.blockSize) r.forgetNotices
  (result.map (Outline.count after.desk.items), after.notices)

namespace Context

def verdict (c : Context) (path : String) : Except Fault Nat × List Notice :=
  CommandLine.verdict c.files c.memory c.reader path

/-- Whether a document is not read. -/
def fails (c : Context) (path : String) : Bool := !(c.verdict path).1.isOk

/-- What is printed on a document: a line on one side or on the other, behind what is logged. -/
def remark (c : Context) (path : String) : String × String :=
  let (outcome, log) := c.verdict path
  let logged := logLines c.debug c.stamp log
  match outcome with
  | .ok count => (goodLine path count, logged)
  | .error f => ("", logged ++ badLine path f)

def outs (c : Context) (paths : List String) : String := String.join (paths.map fun path => (c.remark path).1)

def errs (c : Context) (paths : List String) : String := String.join (paths.map fun path => (c.remark path).2)

/-- Whether a document is read, or not read for a reason that is told. -/
def Tells (c : Context) (path : String) : Prop := ∀ f, (c.verdict path).1 = .error f → isTold f = true

end Context

/-- A reader that may have read before, and a new one. -/
structure Used (fresh r : Reader) : Prop where
  idle : r.machine.reading = false
  setup : r.setup = fresh.setup
  palette : r.desk.colors.palette = fresh.desk.colors.palette

section

variable {c : Context} {fresh : Reader} {path : String}

/-- A used reader comes to what a new one does, and may be used again. -/
theorem read_used (used : Used fresh c.reader) (idle : fresh.machine.reading = false) (path : String) :
    ∃ result after, c.read path = (result, logLines c.debug c.stamp (verdict c.files c.memory fresh path).2, after) ∧
      result.map (Outline.count after.desk.items) = (verdict c.files c.memory fresh path).1 ∧ Used fresh after := by
  let feed := Feed.ofFile path ((c.files path).map (·.toList)) c.memory fresh.setup.config.blockSize
  let here := Reader.parse .root feed c.reader.forgetNotices
  have idleHere : c.reader.forgetNotices.machine.reading = false := used.idle
  obtain ⟨same, _, items, _, _, _, ⟨log, noted, logged⟩, setup, _⟩ :=
    Reader.parse_alike (s := fresh.forgetNotices) idleHere idle used.setup.symm used.palette.symm .root feed
  obtain ⟨result, after, _, ran, done, palette⟩ := Reader.parse_since .root feed idleHere
  refine ⟨here.1, here.2.forgetNotices, ?_, ?_, ?_, setup.trans used.setup, ?_⟩
  · have notices : here.2.notices = (verdict c.files c.memory fresh path).2 := noted.trans logged.symm
    simp only [Context.read, Context.logs, used.setup, ← notices]
    rfl
  · change here.1.map (Outline.count here.2.desk.items) = _
    rw [same, items]
    rfl
  · simp only [here, ran]
    exact done
  · simp only [here, ran]
    exact palette.trans used.palette

/-- One more document that is told of. -/
theorem checkFrom_cons (used : Used fresh c.reader) (idle : fresh.machine.reading = false)
    (tells : Context.Tells { c with reader := fresh } path) (failed total : Nat) (rest : List String) :
    let new : Context := { c with reader := fresh }
    ∃ after, Used fresh after ∧ checkFrom c failed total (path :: rest) =
      (checkFrom { c with reader := after } (failed + if new.fails path then 1 else 0) total rest).behind
        (new.remark path).1 (new.remark path).2 := by
  intro new
  obtain ⟨result, after, read, outcome, again⟩ := read_used used idle path
  refine ⟨after, again, ?_⟩
  have verdict : new.verdict path = (result.map (Outline.count after.desk.items),
    (CommandLine.verdict c.files c.memory fresh path).2) := Prod.ext outcome.symm rfl
  cases result with
  | ok g =>
    have fine : new.fails path = false := by rw [Context.fails, verdict]; rfl
    have remark : new.remark path = (goodLine path (Outline.count after.desk.items g),
        logLines c.debug c.stamp (CommandLine.verdict c.files c.memory fresh path).2) := by
      rw [Context.remark, verdict]
      rfl
    rw [fine, remark]
    simp [checkFrom, read, Report.behind]
  | error f =>
    have told : isTold f = true := tells f (by rw [verdict]; rfl)
    have bad : new.fails path = true := by rw [Context.fails, verdict]; rfl
    have remark : new.remark path = ("", logLines c.debug c.stamp (CommandLine.verdict c.files c.memory fresh path).2 ++
        badLine path f) := by
      rw [Context.remark, verdict]
      rfl
    rw [bad, remark]
    simp [checkFrom, read, told, Report.behind, String.append_assoc]

/-- A fault that is not told breaks a check off. -/
theorem checkFrom_untold (used : Used fresh c.reader) (idle : fresh.machine.reading = false) {f : Fault}
    (failed : (verdict c.files c.memory fresh path).1 = .error f) (untold : isTold f = false) (count total : Nat)
    (rest : List String) : checkFrom c count total (path :: rest) =
      ⟨"", logLines c.debug c.stamp (verdict c.files c.memory fresh path).2, .escaped (.fault f)⟩ := by
  obtain ⟨result, after, read, outcome, _⟩ := read_used used idle path
  rw [failed] at outcome
  cases result with
  | ok g => contradiction
  | error e =>
    obtain rfl := Except.error.inj outcome
    simp [checkFrom, read, untold, Report.behind, escaped]

/-- As long as everything is told of, there is a remark on each document. -/
theorem checkFrom_append (used : Used fresh c.reader) (idle : fresh.machine.reading = false) {before : List String}
    (tells : ∀ path ∈ before, Context.Tells { c with reader := fresh } path) (failed total : Nat)
    (rest : List String) :
    let new : Context := { c with reader := fresh }
    ∃ after, Used fresh after ∧ checkFrom c failed total (before ++ rest) =
      (checkFrom { c with reader := after } (failed + before.countP new.fails) total rest).behind
        (new.outs before) (new.errs before) := by
  intro new
  induction before generalizing c failed with
  | nil => exact ⟨c.reader, used, by simp [Context.outs, Context.errs, Report.behind]⟩
  | cons path before ih =>
    obtain ⟨next, again, first⟩ :=
      checkFrom_cons used idle (tells path (by simp)) failed total (before ++ rest)
    obtain ⟨after, last, others⟩ := ih (c := { c with reader := next }) again
      (fun other member => tells other (by simp [member])) (failed + if new.fails path then 1 else 0)
    refine ⟨after, last, ?_⟩
    rw [List.cons_append, first, others]
    simp only [Report.behind, Context.outs, Context.errs, List.map_cons, String.join_cons, String.append_assoc,
      List.countP_cons, Nat.add_assoc, Nat.add_comm (before.countP _)]
    rfl

/-- A document in a file that there is fails as soon as a block of it cannot be had. -/
theorem verdict_blockFault {files : Files} {memory : Nat} (idle : fresh.machine.reading = false) {e : Fault}
    (fault : Feed.blockFault? memory fresh.setup.config.blockSize = some e) (there : files path ≠ none) :
    verdict files memory fresh path = (.error e, [.opening path]) := by
  obtain ⟨bytes, content⟩ := Option.ne_none_iff_exists'.mp there
  have feed : Feed.ofFile path ((files path).map (·.toList)) memory fresh.setup.config.blockSize =
      ⟨[.opening path], [], some e⟩ := by
    simp [Feed.ofFile, content, fault]
  have idle' : fresh.forgetNotices.machine.reading = false := idle
  simp only [verdict, feed, Reader.parse, Reader.onMachine, Work.within, Behaviour.parse_idle idle']
  rcases Feed.blockFault?_cases fault with rfl | rfl | rfl <;> rfl

end

/-! ## Checks -/

theorem isTold_of_isDeclared {f : Fault} (declared : f.isDeclared = true) : isTold f = true := by
  cases f with
  | malformed | noOwner | misuse => rfl
  | _ => contradiction

/-- That a block of a file cannot be had is not told of. -/
theorem untold_of_blockFault {memory : Nat} {size : Int} {e : Fault} (fault : Feed.blockFault? memory size = some e) :
    isTold e = false := by
  rcases Feed.blockFault?_cases fault with rfl | rfl | rfl <;> rfl

/-- A document of built-in types without a numeral of too many digits is told of, if its blocks can be had. -/
theorem tells_of_short {c : Context} {path : String} (types : c.reader.setup.types = .builtin)
    (fits : Feed.blockFault? c.memory c.reader.setup.config.blockSize = none ∨ c.files path = none)
    (short : ∀ event ∈
      (Feed.ofFile path ((c.files path).map (·.toList)) c.memory c.reader.setup.config.blockSize).events,
      event.Short c.reader.setup.config.hintAttribute) : c.Tells path := by
  intro f failed
  let feed := Feed.ofFile path ((c.files path).map (·.toList)) c.memory c.reader.setup.config.blockSize
  have source : (∀ event ∈ feed.events, event ≠ .alien) ∧ ∀ e, feed.ending = some e → isTold e = true := by
    cases content : c.files path with
    | none => simp [feed, Feed.ofFile, content, isTold]
    | some bytes =>
      have fine := fits.resolve_right (by simp [content])
      have proper := Feed.proper_ofDocument bytes.toList (Feed.isBlockSize_of_blockFault? fine)
      simp only [feed, Feed.ofFile, content, Option.map_some, fine]
      refine ⟨proper.events, fun e ended => ?_⟩
      obtain ⟨cause, rfl⟩ := proper.malformed e ended
      rfl
  rcases ran : Reader.parse .root feed c.reader.forgetNotices with ⟨e | g, after⟩
  · obtain rfl : e = f := by
      simpa only [Context.verdict, verdict, feed, ran, Except.map, Except.error.injEq] using failed
    rcases Reader.blames_of_parse (r := c.reader.forgetNotices) types source.1 ran with
      (declared | ⟨_, name, as, member, value, there, long⟩) | ended
    · exact isTold_of_isDeclared declared
    · exact absurd long (short _ member value there)
    · exact source.2 e ended
  · simp [Context.verdict, verdict, feed, ran, Except.map] at failed

/-- A new reader and what it was built from. -/
theorem used_of_build {config : Configuration} {owners : Table Value} {fresh : Reader}
    (built : Reader.build config owners .builtin = .ok fresh) :
    Used fresh fresh ∧ fresh.setup.config = config ∧ fresh.setup.types = .builtin := by
  obtain ⟨rfl, _, idle, others⟩ := Reader.build_types built
  have same : fresh = { fresh with setup.types := .builtin } :=
    Except.ok.inj (built.symm.trans (others .builtin))
  exact ⟨⟨idle, rfl, rfl⟩, rfl, congrArg (·.setup.types) same⟩

/-- A check all of whose documents are told of. -/
theorem check_told {c : Context} (used : Used c.reader c.reader) {paths : List String}
    (tells : ∀ path ∈ paths, c.Tells path) :
    check c paths = (checkEnding (paths.countP c.fails) paths.length).behind (c.outs paths) (c.errs paths) := by
  obtain ⟨after, _, whole⟩ := checkFrom_append used used.idle tells 0 paths.length []
  simp only [List.append_nil, Nat.zero_add] at whole
  exact whole

/-- A check with a document that is not told of, the first such one. -/
theorem check_untold {c : Context} (used : Used c.reader c.reader) {before : List String} {path : String} {f : Fault}
    (tells : ∀ other ∈ before, c.Tells other) (failed : (c.verdict path).1 = .error f) (untold : isTold f = false)
    (rest : List String) : check c (before ++ path :: rest) =
      ⟨c.outs before, c.errs before ++ logLines c.debug c.stamp (c.verdict path).2, .escaped (.fault f)⟩ := by
  obtain ⟨after, again, whole⟩ :=
    checkFrom_append used used.idle tells 0 (before ++ path :: rest).length (path :: rest)
  rw [check, whole, checkFrom_untold (c := { c with reader := after }) again used.idle failed untold]
  simp [Report.behind, Context.verdict]

/-- A check judges every document on its own. As long as no element has a numeral with too many digits, it prints
one remark on each path in their order: how many shapes there are in the document, or why it is not read, as
a reader finds that is built for this document alone. Then it ends with the status zero, or with the status one and the
number of documents that were not read, if there are any. In another order of the paths there are the same
remarks in that order, and the end is the same. All this is so if blocks of the configured size can be had. If they
cannot, the first path of a file that there is breaks the check off, and there is nothing said of it. -/
theorem check_each {config : Configuration} {owners : Table Value} {fresh : Reader}
    (built : Reader.build config owners .builtin = .ok fresh) (files : Files) (memory : Nat) (stamp : String)
    (debug : Bool) {paths : List String} (short : ∀ path ∈ paths,
      ∀ event ∈ (Feed.ofFile path ((files path).map (·.toList)) memory config.blockSize).events,
        event.Short config.hintAttribute) :
    let c : Context := ⟨files, memory, stamp, debug, fresh⟩
    let failed := paths.countP c.fails
    (Feed.blockFault? memory config.blockSize = none ∨ (∀ path ∈ paths, files path = none) →
      check c paths = {
        out := c.outs paths
        err := c.errs paths ++ if failed = 0 then "" else
          errorLine (Number.decimal failed ++ " of " ++ Number.decimal paths.length ++ " diagrams failed")
        ending := .exit (if failed = 0 then 0 else 1) } ∧
      ∀ others : List String, others.Perm paths → (others.map c.remark).Perm (paths.map c.remark) ∧
        (check c others).ending = (check c paths).ending) ∧
    ∀ before path rest e, paths = before ++ path :: rest → Feed.blockFault? memory config.blockSize = some e →
      (∀ other ∈ before, files other = none) → files path ≠ none →
      check c paths = {
        out := c.outs before
        err := c.errs before ++ logLines debug stamp [.opening path]
        ending := .escaped (.fault e) } := by
  intro c failed
  obtain ⟨used, rfl, types⟩ := used_of_build built
  have tells {path : String} (member : path ∈ paths)
      (fits : Feed.blockFault? memory fresh.setup.config.blockSize = none ∨ files path = none) : c.Tells path :=
    tells_of_short types fits (short path member)
  refine ⟨fun fits => ?_, ?_⟩
  · have all : ∀ path ∈ paths, c.Tells path := fun path member =>
      tells member (fits.imp_right fun missing => missing path member)
    have whole := check_told used all
    refine ⟨?_, fun others perm => ⟨perm.map _, ?_⟩⟩
    · rw [whole, checkEnding]
      by_cases none : paths.countP c.fails = 0
      · simp [failed, none, Report.behind, printed]
      · simp [failed, none, Report.behind, refused]
    · have again := check_told used fun path member => all path (perm.mem_iff.mp member)
      rw [whole, again, perm.countP_eq, perm.length_eq]
      rfl
  · rintro before path rest e rfl fault missing there
    have all : ∀ other ∈ before, c.Tells other := fun other member =>
      tells (by simp [member]) (.inr (missing other member))
    have stuck : c.verdict path = (.error e, [.opening path]) := verdict_blockFault used.idle fault there
    rw [check_untold used all (congrArg Prod.fst stuck) (untold_of_blockFault fault), stuck]

/-- A document that is read twice, one that fails behind a name and a colour, and a path without a file. -/
def drafts : Files := fun path =>
  if path = "a.pgml" then
    some "<pgml><group description='group'><ellipse name='e' strokecolor='red'/></group></pgml>".toUTF8
  else if path = "b.pgml" then
    some "<pgml><text name='t' strokecolor='blue'/><ellipse name='e' href='nobody'/></pgml>".toUTF8
  else none

theorem check_each_of_drafts :
    let paths := ["a.pgml", "b.pgml", "c.pgml", "a.pgml"]
    ∃ fresh, Reader.build .initial .empty .builtin = .ok fresh ∧
      (∀ path ∈ paths, ∀ event ∈ (Feed.ofFile path ((drafts path).map (·.toList)) 65536
        Configuration.initial.blockSize).events, event.Short Configuration.initial.hintAttribute) ∧
      let c : Context := ⟨drafts, 65536, "", false, fresh⟩
      paths.map (fun path => (c.verdict path).1.toOption) = [some 2, none, none, some 2] ∧
      check c paths = {
        out := c.outs paths
        err := c.errs paths ++ errorLine "2 of 4 diagrams failed"
        ending := .exit 1 } := by
  intro paths
  obtain ⟨fresh, built⟩ : ∃ fresh, Reader.build .initial .empty .builtin = .ok fresh := ⟨_, rfl⟩
  have short : ∀ path ∈ paths,
      ∀ event ∈ (Feed.ofFile path ((drafts path).map (·.toList)) 65536
        Configuration.initial.blockSize).events, event.Short Configuration.initial.hintAttribute := by
    decide +kernel
  have checked := ((check_each built drafts 65536 "" false short).1 (.inl (by decide))).1
  refine ⟨fresh, built, short, ?_, ?_⟩
  · cases built
    decide +kernel
  · have failed : paths.countP (Context.fails ⟨drafts, 65536, "", false, fresh⟩) = 2 := by
      cases built
      decide +kernel
    rw [checked, failed]
    simp only [paths, List.length_cons, List.length_nil, Nat.reduceAdd]
    rfl

/-- A size of blocks that a configuration may have and no file can be read in: nothing is said of the document. -/
theorem check_breaks_off :
    let size : Int := 9223372036854775808
    let config : Configuration := { Configuration.initial with blockSize := size }
    Configuration.ofValue? (.mapping [(.text "chunk_size", .int size)]) = some config ∧
    ∃ fresh, Reader.build config .empty .builtin = .ok fresh ∧
      let c : Context := ⟨drafts, 65536, "", false, fresh⟩
      (∀ event ∈ (Feed.ofFile "a.pgml" ((drafts "a.pgml").map (·.toList)) 65536 size).events,
        event.Short config.hintAttribute) ∧
      (c.verdict "a.pgml").1 = .error (.badBlockSize size) ∧
      check c ["a.pgml"] = ⟨"", "", .escaped (.fault (.badBlockSize size))⟩ := by
  intro size config
  refine ⟨by decide +kernel, _, rfl, by decide +kernel, rfl, rfl⟩

end CommandLine

end Pgml
