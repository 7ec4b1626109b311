/-!
# Missions

A tutorial is a list of stages. The current stage is done by the first line that begins with its
opening; its dialogue then waits to be shown, and the next stage is the current one. One line does at
most one stage.
-/

set_option autoImplicit false

namespace ConfinedShell

/-- A stage: what a line has to begin with, and what is told once it is done. -/
structure Stage where
  opening : String
  dialogue : String
  deriving DecidableEq

/-- The stages of the tutorial. -/
def tutorial : List Stage :=
  [{ opening := "cd /home/usuario1/Documentos"
     dialogue := "Excelente, ya te encuentras en el directorio donde está el archivo.\n" ++
       "Ahora falta listarlo para asegurarnos que se encuentra ahí.\n" ++
       "Para ello usaremos el comando `ls`. Solo tienes que escribir `ls` y pulsar intro." },
   { opening := "ls"
     dialogue := "¡Perfecto! Has encontrado el archivo `IPS_El_Bohío.txt`.\n" ++
       "Ahora falta un paso más: ver el contenido de dicho fichero.\n" ++
       "Usa el comando `cat` seguido del nombre del fichero,\n" ++
       "por ejemplo: `cat IPS_El_Bohío.txt`." }]

/-- **The progress of a learner**: the stages done and the dialogue that waits. -/
structure Tracker where
  stages : List Stage
  done : Nat := 0
  messages : List String := []
  deriving DecidableEq

namespace Tracker

/-- A learner at the start of the tutorial. -/
def start : Tracker where
  stages := tutorial

/-- A line does the current stage when it begins with its opening. -/
def onLine (tracker : Tracker) (line : String) : Tracker :=
  match tracker.stages[tracker.done]? with
  | none => tracker
  | some stage =>
    if stage.opening.toList.isPrefixOf line.toList then
      { tracker with done := tracker.done + 1, messages := tracker.messages ++ [stage.dialogue] }
    else tracker

/-- The dialogue that waits, which is handed out once. -/
def takeMessages (tracker : Tracker) : List String × Tracker :=
  (tracker.messages, { tracker with messages := [] })

/-- Whether every stage is done. -/
def isComplete (tracker : Tracker) : Bool :=
  tracker.stages.length ≤ tracker.done

end Tracker

end ConfinedShell
