import GlobalHotkeys.Keyboard.Recognition
import GlobalHotkeys.Main
import GlobalHotkeys.Simulation.ChannelRun
import GlobalHotkeys.Simulation.DaemonRun
import GlobalHotkeys.Simulation.ListenerRun
import GlobalHotkeys.Simulation.ManagerRun
import GlobalHotkeys.Simulation.NullRun
import GlobalHotkeys.Simulation.PortalRun
import GlobalHotkeys.Simulation.ProgramRun
import GlobalHotkeys.Simulation.ReleaseRun
import GlobalHotkeys.Proofs.Key.Name
import GlobalHotkeys.Proofs.Key.Table
import GlobalHotkeys.Proofs.Hotkey.Combination
import GlobalHotkeys.Proofs.Hotkey.Normalization
import GlobalHotkeys.Proofs.Hotkey.Press
import GlobalHotkeys.Proofs.Keyboard.Event
import GlobalHotkeys.Proofs.Listener.Run
import GlobalHotkeys.Proofs.Listener.Firing
import GlobalHotkeys.Proofs.Listener.Reachable
import GlobalHotkeys.Proofs.Capture.Replay
import GlobalHotkeys.Proofs.Capture.Validity
import GlobalHotkeys.Proofs.Provider.Uses
import GlobalHotkeys.Proofs.Provider.Watched
import GlobalHotkeys.Proofs.Provider.Conversation
import GlobalHotkeys.Proofs.Manager.Erasure
import GlobalHotkeys.Proofs.Provider.Calls
import GlobalHotkeys.Proofs.Manager.Tended
import GlobalHotkeys.Proofs.Manager.Run
import GlobalHotkeys.Proofs.Manager.Policy
import GlobalHotkeys.Proofs.Manager.Operations
import GlobalHotkeys.Proofs.Manager.Sandbox
import GlobalHotkeys.Proofs.Manager.Presses
import GlobalHotkeys.Proofs.Manager.Overlap
import GlobalHotkeys.Proofs.Provider.Bindings
import GlobalHotkeys.Proofs.Provider.Together
import GlobalHotkeys.Proofs.Manager.Bindings
import GlobalHotkeys.Proofs.Listener.Keyboards
import GlobalHotkeys.Proofs.Listener.Spellings
import GlobalHotkeys.Proofs.Capture.Race
import GlobalHotkeys.Proofs.Bus.Tape
import GlobalHotkeys.Proofs.Portal.Request
import GlobalHotkeys.Proofs.Portal.Session
import GlobalHotkeys.Proofs.Portal.Start
import GlobalHotkeys.Proofs.Portal.Listening
import GlobalHotkeys.Proofs.Provider.Lockstep
import GlobalHotkeys.Proofs.Manager.Events
import GlobalHotkeys.Proofs.Manager.Lockstep
import GlobalHotkeys.Proofs.Daemon.Reload
import GlobalHotkeys.Proofs.Daemon.Course
import GlobalHotkeys.Proofs.Daemon.Relaunch
import GlobalHotkeys.Proofs.Daemon.Recording
import GlobalHotkeys.Proofs.Program.Detection
import GlobalHotkeys.Proofs.Listener.Apart
import GlobalHotkeys.Proofs.Listener.Accounted
import GlobalHotkeys.Proofs.Listener.Handles
import GlobalHotkeys.Proofs.Capture.Beside
import GlobalHotkeys.Proofs.Listener.Tasks
import GlobalHotkeys.Proofs.Portal.Trigger
import GlobalHotkeys.Proofs.Portal.Keyless
import GlobalHotkeys.Proofs.Config.Layers
import GlobalHotkeys.Proofs.Daemon.Settings
import GlobalHotkeys.Proofs.Provider.Heedless
import GlobalHotkeys.Proofs.Manager.Skipped
import GlobalHotkeys.Proofs.Manager.Taken
import GlobalHotkeys.Proofs.Manager.Heedless
import GlobalHotkeys.Proofs.Keyboard.Inbox
import GlobalHotkeys.Proofs.Keyboard.Readers
import GlobalHotkeys.Proofs.Toml.Document
import GlobalHotkeys.Proofs.Config.Document
import GlobalHotkeys.Proofs.Config.Saved
