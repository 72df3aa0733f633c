import ArityLint.Proofs.Passes

namespace ArityLint

open LintM

/-- A call of a linter: a text is linted, or repaired in at most `limit` rounds. -/
inductive Call where
  | lint (source language path : String)
  | fix (source language path : String) (limit : Int)

inductive Answer where
  | findings (fs : List Finding)
  | repaired (r : Repair)

namespace Call

def language : Call → String
  | lint _ language _ => language
  | fix _ language _ _ => language

def language? (c : Call) : Option Language := Language.ofName? c.language

def run (g : Grammar) : Call → LintM Answer
  | lint source language path => do
    return .findings (← lintSource g source language path)
  | fix source language path limit => do
    return .repaired (← repair g source language path (.whole limit))

/-- Calls one after the other; one that fails does not keep the others from being made. -/
def runAll (g : Grammar) : List Call → Session → List (Except Error Answer) × Session
  | [], s => ([], s)
  | c :: cs, s =>
    let (answer, s₁) := (c.run g).exec s
    let (answers, s₂) := runAll g cs s₁
    (answer :: answers, s₂)

end Call

def creationRecord (lang : Language) : Record :=
  ⟨.debug, Channel.parser, "Created tree-sitter parser for " ++ lang.name⟩

def creations (log : List Record) : List Record := log.filter fun x => x.channel = Channel.parser

/-- The parsers of a linter, and what is on record about them. -/
abbrev Stock := List Language × List Record

namespace Stock

def acquire (lang : Language) (stock : Stock) : Stock :=
  if lang ∈ stock.1 then stock else (stock.1 ++ [lang], stock.2 ++ [creationRecord lang])

theorem acquire_acquire (lang : Language) (stock : Stock) :
    acquire lang (acquire lang stock) = acquire lang stock := by
  by_cases h : lang ∈ stock.1
  · simp [acquire, h]
  · simp [acquire, h]

/-- The stock of a linter that has used these languages. -/
def ofUsed (used : List Language) : Stock :=
  (used.eraseDups, used.eraseDups.map creationRecord)

theorem acquire_ofUsed (lang : Language) (used : List Language) :
    acquire lang (ofUsed used) = ofUsed (used ++ [lang]) := by
  by_cases h : lang ∈ used
  · simp [acquire, ofUsed, h, List.eraseDups_append, List.removeAll]
  · simp [acquire, ofUsed, h, List.eraseDups_append, List.removeAll, List.eraseDups_cons]

end Stock

def Session.stock (s : Session) : Stock := (s.parsers, creations s.log)

namespace LintM

variable {α β : Type} {m : LintM α} {f : α → LintM β} {lang : Language}

def KeepsStock (m : LintM α) : Prop := ∀ s, (m.exec s).2.stock = s.stock

/-- The step ends with a parser of the language and makes no other, also when it fails. -/
def Acquires (m : LintM α) (lang : Language) : Prop :=
  ∀ s, (m.exec s).2.stock = s.stock.acquire lang

/-- The step makes no parser but one of the language. -/
def Uses (m : LintM α) (lang : Language) : Prop :=
  ∀ s, (m.exec s).2.stock = s.stock ∨ (m.exec s).2.stock = s.stock.acquire lang

theorem KeepsStock.uses (h : m.KeepsStock) : m.Uses lang := fun s => .inl (h s)

theorem Acquires.uses (h : m.Acquires lang) : m.Uses lang := fun s => .inr (h s)

theorem keepsStock_ofExcept (r : Except Error α) : (ofExcept r).KeepsStock := fun _ => rfl

theorem keepsStock_ofFault (r : Except Fault α) : (ofFault r).KeepsStock := fun _ => rfl

theorem keepsStock_pure (a : α) : (pure a : LintM α).KeepsStock := fun _ => rfl

theorem keepsStock_log {level : Level} {channel message : String} (h : channel ≠ Channel.parser) :
    (log level channel message).KeepsStock := by
  intro s
  simp [Session.stock, creations, h]

theorem KeepsStock.bind (hm : m.KeepsStock) (hf : ∀ a, (f a).KeepsStock) : (m >>= f).KeepsStock := by
  intro s
  have hs := hm s
  rw [exec_bind]
  rcases h : m.exec s with ⟨e | a, s'⟩
  · rw [h] at hs
    exact hs
  · rw [h] at hs
    exact (hf a s').trans hs

theorem Acquires.bind (hm : m.Acquires lang) (hf : ∀ a, (f a).Uses lang) :
    (m >>= f).Acquires lang := by
  intro s
  have hs := hm s
  rw [exec_bind]
  rcases h : m.exec s with ⟨e | a, s'⟩
  · rw [h] at hs
    exact hs
  · rw [h] at hs
    change s'.stock = _ at hs
    -- a parser that is asked for twice is made once
    rcases hf a s' with hkept | hmade
    · exact hkept.trans hs
    · rw [hmade, hs, Stock.acquire_acquire]

theorem acquires_needParser (lang : Language) : (needParser lang).Acquires lang := by
  intro s
  unfold needParser
  rw [exec_bind, exec_get]
  by_cases h : lang ∈ s.parsers
  · simp [h, Session.stock, Stock.acquire]
  · simp [h, exec_bind, Session.stock, Stock.acquire, creations, creationRecord]

/-- The step fails at once and leaves the session as it is. -/
def Fails (m : LintM α) (e : Error) : Prop := ∀ s, m.exec s = (.error e, s)

theorem Fails.bind {e : Error} (hm : m.Fails e) : (m >>= f).Fails e := by
  intro s
  rw [exec_bind, hm s]

end LintM

theorem Language.ofName_of_name? {name : String} {lang : Language} (h : ofName? name = some lang) :
    ofName name = .ok lang := by
  rw [ofName, h]

theorem keepsStock_checkNode (t : Tree) (v : Visit) : (checkNode t v).KeepsStock := by
  unfold checkNode
  refine (keepsStock_ofFault _).bind fun reason => ?_
  split
  · exact (keepsStock_log (by decide)).bind fun _ => keepsStock_pure _
  · refine (keepsStock_ofFault _).bind fun edit => ?_
    dsimp only
    split
    · exact (keepsStock_log (by decide)).bind fun _ => keepsStock_pure _
    · exact keepsStock_pure _

theorem keepsStock_checkVisits (t : Tree) (vs : List Visit) : (checkVisits t vs).KeepsStock := by
  induction vs with
  | nil => exact keepsStock_pure _
  | cons v vs ih =>
    unfold checkVisits
    split
    · exact (keepsStock_checkNode t v).bind fun _ => ih.bind fun _ => keepsStock_pure _
    · exact ih

theorem keepsStock_check (t : Tree) : t.check.KeepsStock :=
  (keepsStock_checkVisits t t.walk).bind fun _ => keepsStock_pure _

section Supported

variable (g : Grammar) {language : String} {lang : Language} (path : String)
  (h : Language.ofName? language = some lang)
include h

theorem acquires_treeOf (source : String) : (treeOf g source language path).Acquires lang := by
  unfold treeOf
  rw [Language.ofName_of_name? h]
  refine (acquires_needParser lang).bind fun _ => KeepsStock.uses ?_
  exact (keepsStock_ofExcept _).bind fun _ =>
    (keepsStock_log (by decide)).bind fun _ => keepsStock_pure _

theorem acquires_lintSource (source : String) : (lintSource g source language path).Acquires lang :=
  (acquires_treeOf g path h source).bind fun t => (keepsStock_check t).uses

theorem acquires_pass (r : Repair) : (r.pass g language path).Acquires lang := by
  refine (acquires_lintSource g path h r.output).bind fun fs => KeepsStock.uses ?_
  dsimp only
  split
  · exact keepsStock_pure _
  · exact keepsStock_pure _

theorem acquires_run {left : Nat} (hrest : ∀ r, (Repair.run g language path left r).Uses lang)
    (r : Repair) : (Repair.run g language path (left + 1) r).Acquires lang := by
  refine (acquires_pass g path h r).bind fun found => ?_
  cases found with
  | none => exact (keepsStock_pure _).uses
  | some next => exact hrest next

theorem uses_run (left : Nat) (r : Repair) : (Repair.run g language path left r).Uses lang := by
  induction left generalizing r with
  | zero => exact (keepsStock_pure _).uses
  | succ left ih => exact (acquires_run g path h ih r).uses

theorem acquires_warnPending (limit : Quantity) (r : Repair) :
    (r.warnPending g language path limit).Acquires lang := by
  have hpending : (r.pending g language path).Acquires lang :=
    (acquires_lintSource g path h r.output).bind fun fs => (keepsStock_pure _).uses
  refine hpending.bind fun pending => KeepsStock.uses ?_
  split
  · exact keepsStock_pure _
  · exact keepsStock_log (by decide)

theorem acquires_repair (source : String) (limit : Int) :
    (repair g source language path (.whole limit)).Acquires lang := by
  have hconclude : ∀ r, (Repair.conclude g language path (.whole limit) r false).Acquires lang :=
    fun r => (acquires_warnPending g path h _ r).bind fun _ => (keepsStock_pure r).uses
  rw [repair_whole]
  cases limit.toNat with
  | zero => exact hconclude _
  | succ left =>
    refine (acquires_run g path h (uses_run g path h left) _).bind fun (r, settled) => ?_
    cases settled with
    | true => exact (keepsStock_pure r).uses
    | false => exact (hconclude r).uses

end Supported

section Unsupported

variable (g : Grammar) {language : String} (path : String) (h : Language.ofName? language = none)
include h

theorem fails_lintSource (source : String) : (lintSource g source language path).Fails
    (.failure (.unsupportedLanguage language Language.names)) := by
  have htree : (treeOf g source language path).Fails
      (.failure (.unsupportedLanguage language Language.names)) := by
    intro s
    unfold treeOf Language.ofName
    rw [h]
    rfl
  exact htree.bind

theorem fails_repair (source : String) (limit : Int) :
    (repair g source language path (.whole limit)).Fails
      (.failure (.unsupportedLanguage language Language.names)) := by
  have hlint := fails_lintSource g path h
  rw [repair_whole]
  cases limit.toNat with
  | zero => exact (hlint source).bind.bind.bind
  | succ left => exact (hlint source).bind.bind.bind

end Unsupported

namespace Call

variable (g : Grammar)

theorem gives_run (c : Call) : (c.run g).Gives ((c.run g).exec {}).1 := by
  obtain ⟨answer, h⟩ : ∃ answer, (c.run g).Gives answer := by
    cases c with
    | lint source language path =>
      obtain ⟨found, hfound⟩ := yields_lintSource g source language path
      cases found with
      | error e => exact ⟨_, hfound.gives.bind_error⟩
      | ok fs => exact ⟨_, hfound.gives.bind_ok (gives_pure _)⟩
    | fix source language path limit =>
      have hrepair := gives_repair g source language path limit
      cases hr : Repair.outcome g language path limit.toNat ⟨source, false, 0, 0⟩ with
      | error e =>
        rw [hr] at hrepair
        exact ⟨_, hrepair.bind_error⟩
      | ok r =>
        rw [hr] at hrepair
        exact ⟨_, hrepair.bind_ok (gives_pure _)⟩
  rw [h {}]
  exact h

variable {g} in
theorem acquires_run {c : Call} {lang : Language} (h : c.language? = some lang) :
    (c.run g).Acquires lang := by
  cases c with
  | lint source language path =>
    exact (acquires_lintSource g path h source).bind fun _ => (keepsStock_pure _).uses
  | fix source language path limit =>
    exact (acquires_repair g path h source limit).bind fun _ => (keepsStock_pure _).uses

variable {g} in
theorem fails_run {c : Call} (h : c.language? = none) :
    (c.run g).Fails (.failure (.unsupportedLanguage c.language Language.names)) := by
  cases c with
  | lint source language path => exact (fails_lintSource g path h source).bind
  | fix source language path limit => exact (fails_repair g path h source limit).bind

theorem fst_runAll (calls : List Call) (s : Session) :
    (runAll g calls s).1 = calls.map fun c => ((c.run g).exec {}).1 := by
  induction calls generalizing s with
  | nil => rfl
  | cons c calls ih =>
    rw [List.map_cons, ← ih, ← gives_run g c s]
    rfl

theorem stock_runAll (calls : List Call) {used : List Language} {s : Session}
    (h : s.stock = .ofUsed used) :
    (runAll g calls s).2.stock = .ofUsed (used ++ calls.filterMap language?) := by
  induction calls generalizing used s with
  | nil =>
    rw [List.filterMap_nil, List.append_nil]
    exact h
  | cons c calls ih =>
    change (runAll g calls ((c.run g).exec s).2).2.stock = _
    cases hc : c.language? with
    | none =>
      rw [List.filterMap_cons_none hc, fails_run hc s]
      exact ih h
    | some lang =>
      have hstock : ((c.run g).exec s).2.stock = .ofUsed (used ++ [lang]) := by
        rw [acquires_run hc s, h, Stock.acquire_ofUsed]
      rw [List.filterMap_cons_some hc, ih hstock, List.append_assoc, List.singleton_append]

end Call

/-- The calls of one linter give what they give on a new one. After any calls its parsers are those
of the supported languages that were used, in order of first use, each made and logged once: a call
in another language is refused and changes nothing, and one that fails later on has its parser made.
-/
theorem runAll_reuses_parsers (g : Grammar) (calls : List Call) :
    (Call.runAll g calls {}).1 = calls.map (fun c => ((c.run g).exec {}).1) ∧
      (Call.runAll g calls {}).2.parsers = (calls.filterMap Call.language?).eraseDups ∧
      creations (Call.runAll g calls {}).2.log =
        (Call.runAll g calls {}).2.parsers.map creationRecord ∧
      (∀ (c : Call) (s : Session), c.language? = none →
        (c.run g).exec s = (.error (.failure (.unsupportedLanguage c.language Language.names)), s)) ∧
      ∀ (c : Call) (s : Session) (lang : Language), c.language? = some lang →
        ∀ answer s', (c.run g).exec s = (answer, s') → lang ∈ s'.parsers := by
  have hnew : ({} : Session).stock = .ofUsed [] := rfl
  have hstock := Call.stock_runAll g calls hnew
  obtain ⟨hparsers, hcreations⟩ := Prod.mk.inj hstock
  rw [List.nil_append] at hparsers hcreations
  refine ⟨Call.fst_runAll g calls {}, hparsers, ?_, fun c s hc => Call.fails_run hc s, ?_⟩
  · rw [hparsers]
    exact hcreations
  · intro c s lang hc answer s' hexec
    have hacquired := Call.acquires_run (g := g) hc s
    rw [hexec] at hacquired
    have hmem : lang ∈ (s.stock.acquire lang).1 := by
      by_cases h : lang ∈ s.stock.1
      · simp [Stock.acquire, h]
      · simp [Stock.acquire, h]
    rw [← hacquired] at hmem
    exact hmem

section Instances

/-- A language without a grammar, a text with a syntax error, and two more. -/
def fourCalls : List Call :=
  [.lint namesText "ruby" "a.rb", .lint "(" "tsx" "a.tsx", .fix namesText "javascript" "a.js" 3,
    .lint namesText "tsx" "b.tsx"]

theorem fourCalls_reuse_parsers :
    (Call.runAll statementGrammar fourCalls {}).2.parsers = [.tsx, .javascript] ∧
      (Call.lint namesText "ruby" "a.rb").language? = none ∧
      ((Call.lint namesText "ruby" "a.rb").run statementGrammar).exec {} =
        (.error (.failure (.unsupportedLanguage "ruby" Language.names)), {}) ∧
      ∃ e s', ((Call.lint "(" "tsx" "a.tsx").run statementGrammar).exec {} = (.error e, s') ∧
        .tsx ∈ s'.parsers := by
  obtain ⟨_, hparsers, _, hrefused, hmade⟩ := runAll_reuses_parsers statementGrammar fourCalls
  refine ⟨hparsers.trans (by decide), by decide, hrefused _ _ (by decide), ?_⟩
  exact ⟨_, _, rfl, hmade (.lint "(" "tsx" "a.tsx") {} .tsx (by decide) _ _ rfl⟩

end Instances

end ArityLint
