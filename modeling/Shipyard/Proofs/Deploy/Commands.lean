import Mathlib.Data.List.Forall2
import Shipyard.Deploy.Plan
import Shipyard.Proofs.Shell.Words

/-!
# The commands of a plan

The shell of the target reads the command line of each step as a change to the work directory and
one program with its arguments. Names that were written down by someone else, the service, the image
and the directory with the archive in it, are always the last argument and are put into the line as
one word.
-/

namespace Shipyard.Deploy

open Shell (IsRead isOrdinaryWord plainWord andThen)

/-- What a shell reads that is to run a program in a directory: the change to the directory, and the
program with its arguments behind it. -/
def entering (directory : String) (arguments : List String) : List Shell.Token :=
  [plainWord "cd".toList, plainWord directory.toList, andThen] ++
    arguments.map fun argument => plainWord argument.toList

/-- What the steps of a plan are there to run, in order, for an archive in its place on the target.
-/
def intendedCommands (context : Context) (archive : String) : List (List String) :=
  [ ["docker", "compose", "stop", context.service],
    ["docker", "rmi", "-f", context.image],
    ["docker", "load", "-i", archive],
    ["docker", "compose", "up", "-d", context.service],
    ["rm", "-f", archive],
    ["docker", "compose", "ps", context.service] ]

/-- Words that need no quotes, with a blank behind each, are read as those words in front of an
argument. -/
lemma isRead_words {words : List String}
    (hwords : ∀ word ∈ words, isOrdinaryWord word.toList = true) {text : List Char}
    {value : String} (htext : IsRead text [plainWord value.toList]) :
    IsRead (words.flatMap (fun word => word.toList ++ [' ']) ++ text)
      ((words ++ [value]).map fun word => plainWord word.toList) := by
  induction words with
  | nil => exact htext
  | cons word words ih =>
    have hline := (IsRead.word (hwords word List.mem_cons_self)).join
      (ih fun word' hword' => hwords word' (List.mem_cons_of_mem _ hword'))
    rw [List.flatMap_cons, List.append_assoc, List.append_assoc, List.singleton_append]
    exact hline

namespace Plan

/-- The command line of a step that is written as words and an argument behind them. -/
lemma isRead_commandLine (plan : Plan) {name front text value : String} {mode : StepMode}
    (words : List String) (hfront : front.toList = words.flatMap fun word => word.toList ++ [' '])
    (hwords : ∀ word ∈ words, isOrdinaryWord word.toList = true)
    (htext : IsRead text.toList [plainWord value.toList]) :
    IsRead (plan.commandLine ⟨name, front ++ text, mode⟩).toList
      (entering plan.workDir (words ++ [value])) := by
  refine IsRead.inDirectory plan.workDir ?_
  rw [String.toList_append, hfront]
  exact isRead_words hwords htext

/-- Each step of the plan of a context runs what it is there for. -/
lemma ofContext_isRead (context : Context) :
    List.Forall₂ (fun step arguments => IsRead ((ofContext context).commandLine step).toList
        (entering context.target.workDir arguments))
      (ofContext context).steps (intendedCommands context context.target.archivePath) := by
  have hservice := IsRead.quoteArgument context.service
  have himage := IsRead.quoteArgument context.image
  have harchive := IsRead.quotePath context.target.archivePath
  have hread := @isRead_commandLine (ofContext context)
  exact
    .cons (hread ["docker", "compose", "stop"] (by decide) (by decide) hservice) <|
    .cons (hread ["docker", "rmi", "-f"] (by decide) (by decide) himage) <|
    .cons (hread ["docker", "load", "-i"] (by decide) (by decide) harchive) <|
    .cons (hread ["docker", "compose", "up", "-d"] (by decide) (by decide) hservice) <|
    .cons (hread ["rm", "-f"] (by decide) (by decide) harchive) <|
    .cons (hread ["docker", "compose", "ps"] (by decide) (by decide) hservice) .nil

end Plan

end Shipyard.Deploy
