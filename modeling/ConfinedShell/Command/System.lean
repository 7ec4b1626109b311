import ConfinedShell.Command.Basic

/-!
# Commands on the system

The state of the machine is made up; only the clock is real.
-/

set_option autoImplicit false

namespace ConfinedShell.Commands

open ConfinedShell.Action

/-- What is known of `uptime`. -/
def uptimeInfo : CommandInfo where
  name := "uptime"
  usage := "uptime"
  description := "Show how long the system has been running"
  category := "system"

/-- Shows the time since the start in days, hours and minutes. -/
def uptime : Command where
  info := uptimeInfo
  run around _ := do
    let seconds := around.clock.uptime around.now
    return .text ("up " ++ Text.decimal (seconds / 86400) ++ " days, " ++
      Text.decimal (seconds % 86400 / 3600) ++ " hours, " ++
      Text.decimal (seconds % 3600 / 60) ++ " minutes")

/-- A command that answers each of a few fixed arguments with a fixed text. -/
def fixedAnswers (info : CommandInfo) (answers : List (String × String)) : Command where
  info := info
  run _ arguments := do
    let argument ← oneArgument info arguments
    match answers.lookup argument with
    | some answer => return .text answer
    | none => fail info.usageFailure

/-- Looks after the package cache. -/
def aptGet : Command :=
  fixedAnswers
    { name := "apt-get"
      usage := "apt-get <clean|autoclean|autoremove>"
      description := "Package cache maintenance"
      category := "system" }
    [("clean", "Cleaning package caches..."), ("autoclean", "Autoclean complete."),
     ("autoremove", "Orphaned packages removed.")]

/-- Refreshes and upgrades packages. -/
def apt : Command :=
  fixedAnswers
    { name := "apt"
      usage := "apt <update|upgrade>"
      description := "Refresh or upgrade packages"
      category := "system" }
    [("update", "Reading package lists..."), ("upgrade", "Upgrading packages...")]

/-- What is known of `systemctl`. -/
def systemctlInfo : CommandInfo where
  name := "systemctl"
  usage := "systemctl status <service>"
  description := "Show service status"
  category := "system"

/-- Tells that a service is running. -/
def systemctl : Command where
  info := systemctlInfo
  run _ arguments := do
    match arguments with
    | ["status", service] =>
      return .text ("● " ++ service ++ ".service - Simulated service\n" ++
        "   Loaded: loaded (/etc/systemd/system/" ++ service ++ ".service)\n" ++
        "   Active: active (running)")
    | _ => fail systemctlInfo.usageFailure

/-- What is known of `df`. -/
def dfInfo : CommandInfo where
  name := "df"
  usage := "df -h"
  description := "Report disk usage"
  category := "system"

/-- Shows the use of the disk. -/
def df : Command where
  info := dfInfo
  run _ arguments := do
    if arguments.contains "-h" then
      return .text ("Filesystem      Size  Used Avail Use% Mounted on\n" ++
        "rootfs          50G   20G   30G   40% /")
    else fail dfInfo.usageFailure

/-- What is known of `cal`. -/
def calInfo : CommandInfo where
  name := "cal"
  usage := "cal"
  description := "Show a calendar for the current month"
  category := "system"

/-- Shows the current month. -/
def cal : Command where
  info := calInfo
  run around _ := do
    let today := around.clock.date around.now
    match Calendar.monthGrid? around.clock.dates today.year today.month with
    | some grid => return .text (Text.joinWith "\n" grid)
    | none =>
      fail (.command ("invalid date " ++ Text.signedDecimal today.year ++ "-" ++
        Text.decimal today.month))

/-- What is known of `date`. -/
def dateInfo : CommandInfo where
  name := "date"
  usage := "date"
  description := "Show the current date and time"
  category := "system"

/-- Shows the date and the time. -/
def date : Command where
  info := dateInfo
  run around _ := do return .text (around.clock.dates.timeText (around.clock.date around.now))

/-- The commands on the system. -/
def system : List Command :=
  [uptime, aptGet, apt, systemctl, df, cal, date]

end ConfinedShell.Commands
