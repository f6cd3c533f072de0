import TouchDispatch.Api
import TouchDispatch.Daemon.Sense
import TouchDispatch.Device.Bench
import TouchDispatch.Proofs.Daemon.Aftermath
import TouchDispatch.Proofs.Daemon.Agreement
import TouchDispatch.Proofs.Daemon.Blocking
import TouchDispatch.Proofs.Daemon.Copies
import TouchDispatch.Proofs.Daemon.Drawing
import TouchDispatch.Proofs.Daemon.Haptics
import TouchDispatch.Proofs.Daemon.Holding
import TouchDispatch.Proofs.Daemon.Instants
import TouchDispatch.Proofs.Daemon.Interference
import TouchDispatch.Proofs.Daemon.Lamp
import TouchDispatch.Proofs.Daemon.Presses
import TouchDispatch.Proofs.Daemon.Slider
import TouchDispatch.Proofs.Daemon.Tally
import TouchDispatch.Proofs.Daemon.Torch
import TouchDispatch.Proofs.Daemon.Traffic
import TouchDispatch.Proofs.Daemon.Waking
import TouchDispatch.Proofs.Daemon.Worker
import TouchDispatch.Proofs.Disk.Change
import TouchDispatch.Proofs.Disk.Numbers
import TouchDispatch.Proofs.Disk.Times
import TouchDispatch.Proofs.Disk.Tree
import TouchDispatch.Proofs.Disk.Walk
import TouchDispatch.Proofs.Gesture.Fate
import TouchDispatch.Proofs.Json.Legible
import TouchDispatch.Proofs.Json.Rereading
import TouchDispatch.Proofs.Json.Sameness
import TouchDispatch.Proofs.Json.Strings
import TouchDispatch.Proofs.Panel.Acting
import TouchDispatch.Proofs.Panel.Mirror
import TouchDispatch.Proofs.Sensor.Settling
import TouchDispatch.Proofs.Sensor.Tilt
import TouchDispatch.Proofs.Settings.Accord
import TouchDispatch.Proofs.Settings.Atomic
import TouchDispatch.Proofs.Settings.Body
import TouchDispatch.Proofs.Settings.Convergence
import TouchDispatch.Proofs.Settings.Drift
import TouchDispatch.Proofs.Settings.Edit
import TouchDispatch.Proofs.Settings.Halves
import TouchDispatch.Proofs.Settings.History
import TouchDispatch.Proofs.Settings.Naming
import TouchDispatch.Proofs.Settings.Restating
import TouchDispatch.Proofs.Settings.Restoring
import TouchDispatch.Proofs.Settings.Saving
import TouchDispatch.Proofs.Settings.Whole
import TouchDispatch.Proofs.Shell.Choosing
import TouchDispatch.Proofs.Shell.Lighting
import TouchDispatch.Proofs.Shell.Words
import TouchDispatch.Proofs.Text.Encoding
import TouchDispatch.Sensor.Screen
import TouchDispatch.Settings.Watch
import TouchDispatch.Shell.Services
import TouchDispatch.Shell.TorchLed
