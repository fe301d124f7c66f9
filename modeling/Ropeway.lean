import Ropeway.Emergency
import Ropeway.Saturation
import Ropeway.Station
import Ropeway.Tickets
import Ropeway.Platform
import Ropeway.Chairs
import Ropeway.Wakeup
import Ropeway.Holdings
import Ropeway.TimeServer
import Ropeway.Report
import Ropeway.Waiters
import Ropeway.Entry
import Ropeway.Gates
import Ropeway.Recovery
import Ropeway.Startup
import Ropeway.Limits
import Ropeway.Arguments
import Ropeway.ConfigFile
import Ropeway.Creation
import Ropeway.Packing
import Ropeway.Trackers
import Ropeway.Halt
import Ropeway.Lib.Memory
import Ropeway.Numerals
import Ropeway.Logger
import Ropeway.Lib.Children
import Ropeway.Lib.Progress
import Ropeway.Reaper
import Ropeway.Simulation.Processes
import Ropeway.Simulation.Effects
import Ropeway.Simulation.Course
import Ropeway.Simulation.Roster
import Ropeway.Simulation.Rank
import Ropeway.Simulation.Descent
import Ropeway.Simulation.Timers
import Ropeway.Simulation.Shutdown
import Ropeway.Simulation.FinalReport
import Ropeway.Simulation.MainLoop
import Ropeway.Lib.Words
import Ropeway.ReportText
import Ropeway.Simulation.Chronicle
import Ropeway.Simulation.ClosingTime
import Ropeway.Simulation.DayEnd
import Ropeway.Movement
