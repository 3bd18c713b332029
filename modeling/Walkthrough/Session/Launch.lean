import Walkthrough.Settings

/-!
# Launching a browser

The options that a browser is launched with. Chromium also gets the flags that let it run in a
container.

Mirroring notes:
- `launchOptions` is `launch_options`. The pause between two actions (`slow_mo`) is kept as settings
  hold it.
-/

namespace Walkthrough

/-- The options that a browser is launched with. -/
structure LaunchOptions where
  headless : Bool
  /-- The pause after each browser operation, in milliseconds. -/
  slowMotion : Rat
  /-- The flags on the command line of the browser. -/
  flags : List String
  deriving DecidableEq

/-- The flags that let an engine run in a container. -/
def BrowserEngine.flags : BrowserEngine → List String
  | chromium => ["--no-sandbox", "--disable-dev-shm-usage", "--disable-gpu"]
  | _ => []

/-- The options to launch a browser with, as its configuration says. -/
def BrowserConfig.launchOptions (c : BrowserConfig) : LaunchOptions :=
  ⟨c.headless, c.slowMotion, c.engine.flags⟩

end Walkthrough
